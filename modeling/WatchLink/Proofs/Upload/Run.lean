import Mathlib.Data.List.Induction
import WatchLink.Proofs.Upload.Answers

/-!
# Runs of an upload

A run is a list of calls, in any order and with any arguments: stale, short and repeated
acknowledgements, repeated answers to the request, other requests, other listeners. `Standing` says
what may have been sent and told of when the job stands where it does: nothing before the watch has
answered, and then the first parts up to the one that is out. Every call keeps that, as long as
there is a job; the sizes are those of the answer, and stay.
-/

namespace WatchLink

def UploadNotice.percent? : UploadNotice → Option UInt8
  | .progress percent => some percent
  | .completed => none
  | .failed => none

namespace Upload

/-- What can be asked of an upload. -/
inductive Call where
  | request (kind : UInt8) (file : Bytes)
  | command (command : Command) (maxPayload : Nat)
  | ack (bytes : Bytes)
  | listen (listener : Option UploadListener)
  deriving DecidableEq

/-- The upload after a call, and what the call moves the connection to do. A call that is refused
changes nothing. -/
def perform (upload : Upload) : Call → Upload × Output
  | .request kind file =>
    match upload.request kind file with
    | .ok (next, _) => (next, {})
    | .error _ => (upload, {})
  | .command command maxPayload =>
    match upload.handleCommand command maxPayload with
    | .ok result => result
    | .error _ => (upload, {})
  | .ack bytes => upload.handleAck bytes
  | .listen listener => ({ upload with listener := listener }, {})

def run (upload : Upload) (calls : List Call) : Upload :=
  calls.foldl (fun upload call => (upload.perform call).1) upload

def outputs (upload : Upload) : List Call → List Output
  | [] => []
  | call :: calls => (upload.perform call).2 :: outputs (upload.perform call).1 calls

/-- The parts that were sent. -/
def sent (upload : Upload) (calls : List Call) : List Bytes :=
  (upload.outputs calls).flatMap Output.parts

/-- The progress that was told of. -/
def percents (upload : Upload) (calls : List Call) : List UInt8 :=
  ((upload.outputs calls).flatMap Output.notices).filterMap UploadNotice.percent?

theorem run_append (upload : Upload) (calls more : List Call) :
    upload.run (calls ++ more) = (upload.run calls).run more := List.foldl_append

theorem run_snoc (upload : Upload) (calls : List Call) (call : Call) :
    upload.run (calls ++ [call]) = ((upload.run calls).perform call).1 := run_append ..

theorem outputs_append (upload : Upload) (calls more : List Call) :
    upload.outputs (calls ++ more) = upload.outputs calls ++ (upload.run calls).outputs more := by
  induction calls generalizing upload with
  | nil => rfl
  | cons first calls ih =>
      rw [List.cons_append, outputs, ih, outputs]
      rfl

theorem sent_append (upload : Upload) (calls more : List Call) :
    upload.sent (calls ++ more) = upload.sent calls ++ (upload.run calls).sent more := by
  rw [sent, outputs_append, List.flatMap_append, sent, sent]

theorem sent_snoc (upload : Upload) (calls : List Call) (call : Call) :
    upload.sent (calls ++ [call]) =
      upload.sent calls ++ ((upload.run calls).perform call).2.parts := by
  rw [sent_append]
  exact congrArg _ (List.flatMap_singleton ..)

theorem percents_snoc (upload : Upload) (calls : List Call) (call : Call) :
    upload.percents (calls ++ [call]) = upload.percents calls ++
      ((upload.run calls).perform call).2.notices.filterMap UploadNotice.percent? := by
  rw [percents, outputs_append, List.flatMap_append, List.filterMap_append, percents]
  exact congrArg _ (congrArg _ (List.flatMap_singleton ..))

/-! ## Progress -/

theorem toNat_percent {index total : UInt16} (h : index.toNat ≤ total.toNat) :
    (percent index total).toNat = index.toNat * 100 / total.toNat := by
  have hle : index.toNat * 100 / total.toNat ≤ 100 :=
    Nat.div_le_of_le_mul (Nat.mul_le_mul_right 100 h)
  rw [percent, UInt8.toNat_ofNat']
  exact Nat.mod_eq_of_lt (Nat.lt_of_le_of_lt hle (by decide))

theorem percent_ne_hundred {index total : UInt16} (h : index.toNat < total.toNat) :
    percent index total ≠ 100 := by
  intro heq
  have hlt : index.toNat * 100 / total.toNat < 100 :=
    Nat.div_lt_of_lt_mul (Nat.mul_lt_mul_of_pos_right h (by decide))
  rw [← toNat_percent (Nat.le_of_lt h), heq] at hlt
  exact absurd hlt (by decide)

/-- What is told of while the first so many parts are acknowledged. -/
def percentsTo (total : UInt16) (count : Nat) : List UInt8 :=
  (List.range count).map fun i => percent (.ofNat (i + 1)) total

theorem percentsTo_succ (total : UInt16) (count : Nat) :
    percentsTo total (count + 1) =
      percentsTo total count ++ [percent (.ofNat (count + 1)) total] := by
  rw [percentsTo, List.range_succ, List.map_append]
  rfl

theorem pairwise_percentsTo {total : UInt16} {count : Nat} (h : count ≤ total.toNat) :
    (percentsTo total count).Pairwise (· ≤ ·) := by
  have hindex (i : Nat) (hi : i < count) : (UInt16.ofNat (i + 1)).toNat = i + 1 := by
    rw [UInt16.toNat_ofNat']
    have := total.toNat_lt
    omega
  rw [percentsTo, List.pairwise_map]
  refine List.pairwise_lt_range.imp_of_mem ?_
  intro i j hi hj hlt
  rw [List.mem_range] at hi hj
  rw [UInt8.le_iff_toNat_le, toNat_percent (by rw [hindex i hi]; omega),
    toNat_percent (by rw [hindex j hj]; omega), hindex i hi, hindex j hj]
  exact Nat.div_le_div_right (by omega)

/-! ## Calls on a running job -/

/-- The call accepts the part that is out. -/
def Answers (job : UploadJob) (call : Call) : Prop :=
  ∃ size total sent ack, job.phase = .sending size total sent ∧ call = .ack ack ∧ Accepts ack sent

/-- What a call can do while there is a job. -/
inductive Stepped (upload : Upload) (job : UploadJob) (call : Call) : Upload × Output → Prop
  | quiet {next : Upload} (same : next.job = some job) (other : ¬ Answers job call) :
      Stepped upload job call (next, {})
  | failed (other : ¬ Answers job call) : Stepped upload job call upload.failed
  | started {command : Command} {chunk : UInt32} {maxPayload size : Nat}
      (is : call = .command command maxPayload) (waiting : job.phase = .awaitingAck)
      (subtype : command.subtype = startSubtype) (body : command.body = .upload (.ack 0 chunk))
      (sized : size = partSize chunk maxPayload) (room : size ≠ 0)
      (count : partCount job.blob.length size ≤ 65535) :
      Stepped upload job call
        (upload.sending job size (.ofNat (partCount job.blob.length size)) 1,
          { parts := [part job.blob size (.ofNat (partCount job.blob.length size)) 1] })
  | completed {ack : Bytes} {size : Nat} {total : UInt16} (is : call = .ack ack)
      (out : job.phase = .sending size total total) (accepts : Accepts ack total) :
      Stepped upload job call
        ({ upload with job := none }, { notices := [.progress (percent total total), .completed] })
  | advanced {ack : Bytes} {size : Nat} {total sent : UInt16} (is : call = .ack ack)
      (out : job.phase = .sending size total sent) (accepts : Accepts ack sent)
      (more : sent ≠ total) :
      Stepped upload job call
        (upload.sending job size total (sent + 1),
          { parts := [part job.blob size total (sent + 1)]
            notices := [.progress (percent sent total)] })

/-- Another request is refused while there is a job. -/
theorem request_of_running {upload : Upload} {job : UploadJob} (running : upload.job = some job)
    (kind : UInt8) (file : Bytes) : upload.request kind file = .error .uploadInProgress := by
  rw [request, running]

theorem perform_request_of_running {upload : Upload} {job : UploadJob}
    (running : upload.job = some job) (kind : UInt8) (file : Bytes) :
    upload.perform (.request kind file) = (upload, {}) := by
  rw [perform, request_of_running running]

/-- The list is complete. -/
theorem stepped {upload : Upload} {job : UploadJob} (running : upload.job = some job)
    (call : Call) : Stepped upload job call (upload.perform call) := by
  cases call with
  | request kind file =>
      rw [perform_request_of_running running]
      refine .quiet running ?_
      rintro ⟨_, _, _, _, -, hcall, -⟩
      cases hcall
  | listen listener =>
      refine .quiet running ?_
      rintro ⟨_, _, _, _, -, hcall, -⟩
      cases hcall
  | command command maxPayload =>
      have hother : ¬ Answers job (.command command maxPayload) := by
        rintro ⟨_, _, _, _, -, hcall, -⟩
        cases hcall
      rw [perform]
      cases hresult : upload.handleCommand command maxPayload with
      | error e => exact .quiet running hother
      | ok result =>
          cases started hresult with
          | ignored => exact .quiet running hother
          | refused => exact .failed hother
          | started running' waiting subtype body sized room count =>
              rw [running] at running'
              obtain rfl := Option.some.inj running'
              exact .started rfl waiting subtype body sized room count
  | ack bytes =>
      have hacknowledged := acknowledged upload bytes
      rw [perform]
      generalize upload.handleAck bytes = result at hacknowledged ⊢
      cases hacknowledged with
      | ignored other =>
          refine .quiet running ?_
          rintro ⟨size, total, sent, ack, hphase, hcall, haccepts⟩
          cases hcall
          exact other job size total sent running hphase haccepts
      | rejected running' out other =>
          rw [running] at running'
          obtain rfl := Option.some.inj running'
          refine .failed ?_
          rintro ⟨size, total, sent, ack, hphase, hcall, haccepts⟩
          cases hcall
          rw [out] at hphase
          cases hphase
          exact other haccepts
      | completed running' out accepts =>
          rw [running] at running'
          obtain rfl := Option.some.inj running'
          exact .completed rfl out accepts
      | advanced running' out accepts more =>
          rw [running] at running'
          obtain rfl := Option.some.inj running'
          exact .advanced rfl out accepts more

/-! ## Where a job stands -/

/-- The first part went out on an answer that accepts the upload and leaves room for so much data:
the smaller of its chunk, 2048 when it names none, and the link's largest write, less the header. -/
def Opened (start : Upload) (calls : List Call) (room : Nat) : Prop :=
  ∃ before command chunk maxPayload after,
    calls = before ++ .command command maxPayload :: after ∧
    start.sent before = [] ∧ start.sent (before ++ [.command command maxPayload]) ≠ [] ∧
    command.subtype = startSubtype ∧ command.body = .upload (.ack 0 chunk) ∧
    room = min (if chunk = 0 then 2048 else chunk.toNat) maxPayload - 4

theorem Opened.snoc {start : Upload} {calls : List Call} {room : Nat}
    (h : start.Opened calls room) (call : Call) : start.Opened (calls ++ [call]) room := by
  obtain ⟨before, command, chunk, maxPayload, after, rfl, h⟩ := h
  refine ⟨before, command, chunk, maxPayload, after ++ [call], ?_, h⟩
  rw [List.append_assoc, List.cons_append]

/-- So many parts were sent, and so many of them acknowledged. -/
structure Sending (start : Upload) (blob : Bytes) (size : Nat) (total : UInt16)
    (calls : List Call) (out acked : Nat) : Prop where
  opened : start.Opened calls size
  room : size ≠ 0
  count : total.toNat = partCount blob.length size
  some : 0 < out
  within : out ≤ total.toNat
  sent : start.sent calls = firstParts blob size total out
  percents : start.percents calls = percentsTo total acked
  behind : acked ≤ out

/-- What was sent and told of before the job came to stand where it does. -/
inductive Standing (start : Upload) (kind : UInt8) (blob : Bytes) (size : Nat) (total : UInt16)
    (calls : List Call) : Option UploadJob → Prop
  | waiting (sent : start.sent calls = []) (percents : start.percents calls = []) :
      Standing start kind blob size total calls (some ⟨kind, blob, .awaitingAck⟩)
  | sending {out : UInt16} (sends : start.Sending blob size total calls out.toNat (out.toNat - 1)) :
      Standing start kind blob size total calls (some ⟨kind, blob, .sending size total out⟩)
  | refused (sent : start.sent calls = []) (percents : start.percents calls = []) :
      Standing start kind blob size total calls none
  | ended {out acked : Nat} (sends : start.Sending blob size total calls out acked) :
      Standing start kind blob size total calls none

section

variable {start : Upload} {kind : UInt8} {blob : Bytes} {size : Nat} {total : UInt16}
  {calls : List Call} {out acked : Nat}

theorem Sending.sent_ne_nil (h : start.Sending blob size total calls out acked) :
    start.sent calls ≠ [] := by
  intro hnil
  have hlen := congrArg List.length h.sent
  rw [hnil, length_firstParts] at hlen
  exact Nat.ne_of_gt h.some hlen.symm

/-- A call that sends nothing leaves what was sent. -/
theorem Sending.quiet (h : start.Sending blob size total calls out acked) {call : Call}
    (hparts : ((start.run calls).perform call).2.parts = [])
    (hnotices : ((start.run calls).perform call).2.notices.filterMap UploadNotice.percent? = []) :
    start.Sending blob size total (calls ++ [call]) out acked :=
  { h with
    opened := h.opened.snoc call
    sent := by rw [sent_snoc, hparts, List.append_nil, h.sent]
    percents := by rw [percents_snoc, hnotices, List.append_nil, h.percents] }

/-- While nothing was sent, the sizes are still open. -/
theorem Standing.of_sent_eq_nil {job : Option UploadJob}
    (h : Standing start kind blob size total calls job) (hsent : start.sent calls = [])
    (size' : Nat) (total' : UInt16) : Standing start kind blob size' total' calls job := by
  cases h with
  | waiting sent percents => exact .waiting sent percents
  | refused sent percents => exact .refused sent percents
  | sending sends => exact absurd hsent sends.sent_ne_nil
  | ended sends => exact absurd hsent sends.sent_ne_nil

/-- A call that does nothing leaves the job where it stands. -/
theorem Standing.quiet {job : Option UploadJob}
    (h : Standing start kind blob size total calls job) {call : Call}
    (hparts : ((start.run calls).perform call).2.parts = [])
    (hnotices : ((start.run calls).perform call).2.notices.filterMap UploadNotice.percent? = []) :
    Standing start kind blob size total (calls ++ [call]) job := by
  have hsent : start.sent (calls ++ [call]) = start.sent calls := by
    rw [sent_snoc, hparts, List.append_nil]
  have hpercents : start.percents (calls ++ [call]) = start.percents calls := by
    rw [percents_snoc, hnotices, List.append_nil]
  cases h with
  | waiting sent percents => exact .waiting (hsent.trans sent) (hpercents.trans percents)
  | refused sent percents => exact .refused (hsent.trans sent) (hpercents.trans percents)
  | sending sends => exact .sending (sends.quiet hparts hnotices)
  | ended sends => exact .ended (sends.quiet hparts hnotices)

/-- A job that fails leaves what was sent. -/
theorem Standing.fail {job : Option UploadJob}
    (h : Standing start kind blob size total calls job) {call : Call}
    (hparts : ((start.run calls).perform call).2.parts = [])
    (hnotices : ((start.run calls).perform call).2.notices.filterMap UploadNotice.percent? = []) :
    Standing start kind blob size total (calls ++ [call]) none := by
  cases h.quiet hparts hnotices with
  | waiting sent percents => exact .refused sent percents
  | refused sent percents => exact .refused sent percents
  | sending sends => exact .ended sends
  | ended sends => exact .ended sends

/-- The first part goes out on the answer that accepts the upload. -/
theorem sending_first {command : Command} {chunk : UInt32} {maxPayload : Nat} (hblob : blob ≠ [])
    (room : partSize chunk maxPayload ≠ 0)
    (count : partCount blob.length (partSize chunk maxPayload) ≤ 65535)
    (htotal : total = .ofNat (partCount blob.length (partSize chunk maxPayload)))
    (subtype : command.subtype = startSubtype) (body : command.body = .upload (.ack 0 chunk))
    (before : start.sent calls = []) (percents : start.percents calls = [])
    (hparts : ((start.run calls).perform (.command command maxPayload)).2.parts =
      [part blob (partSize chunk maxPayload) total 1])
    (hnotices : ((start.run calls).perform (.command command maxPayload)).2.notices = []) :
    start.Sending blob (partSize chunk maxPayload) total (calls ++ [.command command maxPayload])
      1 0 := by
  have hcount : total.toNat = partCount blob.length (partSize chunk maxPayload) := by
    rw [htotal, toNat_ofNat_partCount count]
  have hsent : start.sent (calls ++ [.command command maxPayload]) =
      [part blob (partSize chunk maxPayload) total 1] := by
    rw [sent_snoc, before, List.nil_append, hparts]
  exact
    { opened := by
        refine ⟨calls, command, chunk, maxPayload, [], rfl, before, ?_, subtype, body, rfl⟩
        rw [hsent]
        exact List.cons_ne_nil _ _
      room := room
      count := hcount
      some := Nat.one_pos
      within := by
        rw [hcount]
        exact partCount_pos hblob room
      sent := hsent
      percents := by
        rw [percents_snoc, hnotices, percents]
        rfl
      behind := Nat.zero_le _ }

/-- The part that is out is acknowledged, and its progress told. -/
theorem Sending.acknowledged {out : UInt16} {call : Call}
    (h : start.Sending blob size total calls out.toNat (out.toNat - 1))
    (hnotices : ((start.run calls).perform call).2.notices.filterMap UploadNotice.percent? =
      [percent out total]) :
    start.percents (calls ++ [call]) = percentsTo total out.toNat := by
  have hsucc := percentsTo_succ total (out.toNat - 1)
  rw [Nat.sub_add_cancel h.some, UInt16.ofNat_toNat] at hsucc
  rw [percents_snoc, hnotices, h.percents, hsucc]

/-- The last part is acknowledged. -/
theorem Sending.last {call : Call}
    (h : start.Sending blob size total calls total.toNat (total.toNat - 1))
    (hparts : ((start.run calls).perform call).2.parts = [])
    (hnotices : ((start.run calls).perform call).2.notices.filterMap UploadNotice.percent? =
      [percent total total]) :
    start.Sending blob size total (calls ++ [call]) total.toNat total.toNat :=
  { h with
    opened := h.opened.snoc call
    sent := by rw [sent_snoc, hparts, List.append_nil, h.sent]
    percents := h.acknowledged hnotices
    behind := Nat.le_refl _ }

/-- The next part goes out when the one before it is acknowledged. -/
theorem Sending.next {out : UInt16} {call : Call}
    (h : start.Sending blob size total calls out.toNat (out.toNat - 1)) (more : out ≠ total)
    (hparts : ((start.run calls).perform call).2.parts = [part blob size total (out + 1)])
    (hnotices : ((start.run calls).perform call).2.notices.filterMap UploadNotice.percent? =
      [percent out total]) :
    start.Sending blob size total (calls ++ [call]) (out + 1).toNat ((out + 1).toNat - 1) := by
  have hlt : out.toNat < total.toNat :=
    Nat.lt_of_le_of_ne h.within (mt UInt16.toNat_inj.1 more)
  have hnext := toNat_add_one hlt
  have hindex : out + 1 = .ofNat (out.toNat + 1) := by rw [← hnext, UInt16.ofNat_toNat]
  rw [hnext, Nat.add_sub_cancel]
  exact
    { h with
      opened := h.opened.snoc call
      some := Nat.succ_pos _
      within := hlt
      sent := by rw [sent_snoc, hparts, h.sent, firstParts_succ, ← hindex]
      percents := h.acknowledged hnotices
      behind := Nat.le_succ _ }

/-- A call on a running job leaves a job that stands where it should, with the same sizes unless
nothing was sent before. -/
theorem Standing.perform {job : UploadJob} (hblob : blob ≠ [])
    (h : Standing start kind blob size total calls (some job))
    (hjob : (start.run calls).job = some job) (call : Call) :
    ∃ size' total',
      (start.sent calls = [] ∧ 0 < total'.toNat ∨ size' = size ∧ total' = total) ∧
      Standing start kind blob size' total' (calls ++ [call])
        (start.run (calls ++ [call])).job := by
  have hstepped := stepped hjob call
  rw [run_snoc]
  generalize hresult : (start.run calls).perform call = result at hstepped
  cases hstepped with
  | quiet same =>
      refine ⟨size, total, .inr ⟨rfl, rfl⟩, ?_⟩
      rw [same]
      exact h.quiet (by rw [hresult]) (by rw [hresult]; rfl)
  | failed =>
      exact ⟨size, total, .inr ⟨rfl, rfl⟩, h.fail (by rw [hresult]; rfl) (by rw [hresult]; rfl)⟩
  -- Until this answer the sizes stand for nothing; from here on they are those that it fixes.
  | started is waiting subtype body sized room count =>
      cases h with
      | waiting sent percents =>
          subst is sized
          have hfirst := sending_first hblob room count rfl subtype body sent percents
            (by rw [hresult]) (by rw [hresult])
          exact ⟨_, _, .inl ⟨sent, Nat.lt_of_lt_of_le hfirst.some hfirst.within⟩, .sending hfirst⟩
      | sending => cases waiting
  | completed is out =>
      cases h with
      | waiting => cases out
      | sending sends =>
          cases out
          exact ⟨_, _, .inr ⟨rfl, rfl⟩,
            .ended (sends.last (by rw [hresult]) (by rw [hresult]; rfl))⟩
  | advanced is out accepts more =>
      cases h with
      | waiting => cases out
      | sending sends =>
          cases out
          exact ⟨_, _, .inr ⟨rfl, rfl⟩,
            .sending (sends.next more (by rw [hresult]) (by rw [hresult]; rfl))⟩

end

/-- There is a job at every call of the run. -/
def Running (start : Upload) (calls : List Call) : Prop :=
  ∀ n < calls.length, (start.run (calls.take n)).job.isSome = true

theorem Running.of_snoc {start : Upload} {calls : List Call} {call : Call}
    (h : start.Running (calls ++ [call])) :
    start.Running calls ∧ (start.run calls).job.isSome = true := by
  constructor
  · intro n hn
    have hrunning := h n (by rw [List.length_append]; omega)
    rwa [List.take_append_of_le_length (Nat.le_of_lt hn)] at hrunning
  · have hrunning := h calls.length (by rw [List.length_append]; exact Nat.lt_succ_self _)
    rwa [List.take_left] at hrunning

/-- The sizes of a run: with them the job stands where it should at every point of the run. -/
theorem Running.exists_standing {start : Upload} {kind : UInt8} {blob : Bytes} {calls : List Call}
    (h : start.Running calls) (hblob : blob ≠ [])
    (hstart : start.job = some ⟨kind, blob, .awaitingAck⟩) :
    ∃ size total, 0 < total.toNat ∧ ∀ before after, calls = before ++ after →
      Standing start kind blob size total before (start.run before).job := by
  induction calls using List.reverseRecOn with
  | nil =>
      refine ⟨0, 1, Nat.one_pos, ?_⟩
      intro before after heq
      obtain ⟨rfl, rfl⟩ := List.append_eq_nil_iff.1 heq.symm
      rw [run, List.foldl_nil, hstart]
      exact .waiting rfl rfl
  | append_singleton calls call ih =>
      obtain ⟨hrunning, hsome⟩ := h.of_snoc
      obtain ⟨size, total, hpos, hstanding⟩ := ih hrunning
      obtain ⟨job, hjob⟩ := Option.isSome_iff_exists.1 hsome
      have hlast := hstanding calls [] (List.append_nil _).symm
      rw [hjob] at hlast
      obtain ⟨size', total', hsizes, hnext⟩ := hlast.perform hblob hjob call
      refine ⟨size', total', ?_, ?_⟩
      · rcases hsizes with ⟨-, hpos'⟩ | ⟨-, rfl⟩
        · exact hpos'
        · exact hpos
      · intro before after heq
        rcases List.eq_nil_or_concat after with rfl | ⟨after, last, rfl⟩
        · rw [List.append_nil] at heq
          subst heq
          exact hnext
        · rw [List.concat_eq_append, ← List.append_assoc] at heq
          obtain ⟨rfl, -⟩ := List.append_inj' heq rfl
          rcases hsizes with ⟨hnone, -⟩ | ⟨rfl, rfl⟩
          · rw [sent_append] at hnone
            exact (hstanding before after rfl).of_sent_eq_nil (List.append_eq_nil_iff.1 hnone).1 ..
          · exact hstanding before after rfl

theorem Running.isSome {start : Upload} {before after : List Call} {call : Call}
    (h : start.Running (before ++ call :: after)) : (start.run before).job.isSome = true := by
  have hlt : before.length < (before ++ call :: after).length := by
    rw [List.length_append, List.length_cons]
    omega
  have hsome := h before.length hlt
  rwa [List.take_left] at hsome

/-! ## The law of a run -/

/-- What holds of every run of an upload, with the total of its parts and the room for their data.
-/
structure Lawful (start : Upload) (kind : UInt8) (file : Bytes) (calls : List Call)
    (total : UInt16) (room : Nat) : Prop where
  /-- The parts that were sent are the first of the blob. -/
  parts : PartsOf (blob kind file) room total (start.sent calls)
  opened : start.sent calls ≠ [] → start.Opened calls room
  /-- A call sends one part at most, and after the first only one that accepts the last. -/
  next : ∀ before call after, calls = before ++ call :: after →
    ((start.run before).perform call).2.parts.length ≤ 1 ∧
    (((start.run before).perform call).2.parts ≠ [] → start.sent before ≠ [] →
      ∃ ack, call = .ack ack ∧ Accepts ack (.ofNat (start.sent before).length))
  completed : ∀ before call after, calls = before ++ call :: after →
    (.completed ∈ ((start.run before).perform call).2.notices ↔
      (start.sent before).length = total.toNat ∧ ∃ ack, call = .ack ack ∧ Accepts ack total)
  increasing : (start.percents calls).Pairwise (· ≤ ·)
  hundred : ∀ before call after, calls = before ++ call :: after →
    .progress 100 ∈ ((start.run before).perform call).2.notices →
    .completed ∈ ((start.run before).perform call).2.notices
  /-- Other requests are refused and change nothing. -/
  refuses : ∀ before call after, calls = before ++ call :: after → ∀ kind' file',
    (start.run before).request kind' file' = .error .uploadInProgress ∧
    (start.run before).perform (.request kind' file') = (start.run before, {})

section

variable {start : Upload} {kind : UInt8} {blob : Bytes} {size : Nat} {total : UInt16}
  {before : List Call} {job : UploadJob} {call : Call}

/-- A call sends one part at most, and after the first only one that accepts the last. -/
theorem Standing.next (h : Standing start kind blob size total before (some job))
    (hjob : (start.run before).job = some job) :
    ((start.run before).perform call).2.parts.length ≤ 1 ∧
    (((start.run before).perform call).2.parts ≠ [] → start.sent before ≠ [] →
      ∃ ack, call = .ack ack ∧ Accepts ack (.ofNat (start.sent before).length)) := by
  have hstepped := stepped hjob call
  generalize (start.run before).perform call = result at hstepped ⊢
  cases hstepped with
  | quiet => exact ⟨Nat.zero_le _, fun hparts => absurd rfl hparts⟩
  | failed => exact ⟨Nat.zero_le _, fun hparts => absurd rfl hparts⟩
  | completed => exact ⟨Nat.zero_le _, fun hparts => absurd rfl hparts⟩
  | started is waiting =>
      refine ⟨Nat.le_refl _, fun _ hsent => ?_⟩
      cases h with
      | waiting sent => exact absurd sent hsent
      | sending => cases waiting
  | advanced is phase accepts =>
      refine ⟨Nat.le_refl _, fun _ hsent => ⟨_, is, ?_⟩⟩
      cases h with
      | waiting => cases phase
      | sending sends =>
          cases phase
          rw [sends.sent, length_firstParts, UInt16.ofNat_toNat]
          exact accepts

/-- The upload is complete exactly when the last part is acknowledged. -/
theorem Standing.completed_iff (hpos : 0 < total.toNat)
    (h : Standing start kind blob size total before (some job))
    (hjob : (start.run before).job = some job) :
    .completed ∈ ((start.run before).perform call).2.notices ↔
      (start.sent before).length = total.toNat ∧ ∃ ack, call = .ack ack ∧ Accepts ack total := by
  -- Acknowledging the last part is answering the part that is out.
  have hanswers (hlen : (start.sent before).length = total.toNat)
      (hack : ∃ ack, call = .ack ack ∧ Accepts ack total) : Answers job call := by
    obtain ⟨ack, hcall, haccepts⟩ := hack
    cases h with
    | waiting sent =>
        rw [sent] at hlen
        exact absurd hlen (Nat.ne_of_lt hpos)
    | sending sends =>
        rw [sends.sent, length_firstParts, UInt16.toNat_inj] at hlen
        subst hlen
        exact ⟨size, _, _, ack, rfl, hcall, haccepts⟩
  have hstepped := stepped hjob call
  generalize (start.run before).perform call = result at hstepped ⊢
  cases hstepped with
  | quiet same other =>
      exact iff_of_false List.not_mem_nil fun ⟨hlen, hack⟩ => other (hanswers hlen hack)
  | failed other =>
      exact iff_of_false (by simp [failed]) fun ⟨hlen, hack⟩ => other (hanswers hlen hack)
  | started is =>
      refine iff_of_false List.not_mem_nil ?_
      rintro ⟨-, ack, hcall, -⟩
      rw [is] at hcall
      cases hcall
  | completed is phase accepts =>
      cases h with
      | waiting => cases phase
      | sending sends =>
          cases phase
          refine iff_of_true (by simp) ⟨?_, _, is, accepts⟩
          rw [sends.sent, length_firstParts]
  | advanced is phase accepts more =>
      cases h with
      | waiting => cases phase
      | sending sends =>
          cases phase
          refine iff_of_false (by simp) ?_
          rintro ⟨hlen, -⟩
          rw [sends.sent, length_firstParts] at hlen
          exact more (UInt16.toNat_inj.1 hlen)

/-- Progress comes to a hundred only when the upload is complete. -/
theorem Standing.hundred (h : Standing start kind blob size total before (some job))
    (hjob : (start.run before).job = some job)
    (hmem : .progress 100 ∈ ((start.run before).perform call).2.notices) :
    .completed ∈ ((start.run before).perform call).2.notices := by
  have hstepped := stepped hjob call
  generalize (start.run before).perform call = result at hstepped hmem ⊢
  cases hstepped with
  | quiet => cases hmem
  | failed => cases List.mem_singleton.1 hmem
  | started => cases hmem
  | completed => simp
  | advanced is phase accepts more =>
      cases h with
      | waiting => cases phase
      | sending sends =>
          cases phase
          have hlt := Nat.lt_of_le_of_ne sends.within (mt UInt16.toNat_inj.1 more)
          have hpercent := UploadNotice.progress.inj (List.mem_singleton.1 hmem)
          exact absurd hpercent.symm (percent_ne_hundred hlt)

/-- What was sent and told of at any point of a run. -/
theorem Standing.parts {job : Option UploadJob} (hpos : 0 < total.toNat)
    (h : Standing start kind blob size total before job) :
    PartsOf blob size total (start.sent before) ∧
      (start.sent before ≠ [] → start.Opened before size) ∧
      (start.percents before).Pairwise (· ≤ ·) := by
  have hnone (hsent : start.sent before = []) (hpercents : start.percents before = []) :
      PartsOf blob size total (start.sent before) ∧
        (start.sent before ≠ [] → start.Opened before size) ∧
        (start.percents before).Pairwise (· ≤ ·) := by
    refine ⟨⟨[], hsent, Nat.zero_le _, ?_, List.nil_prefix, ?_⟩, fun h => absurd hsent h, ?_⟩
    · exact fun slice hmem => absurd hmem List.not_mem_nil
    · exact fun hzero => absurd hzero (Nat.ne_of_lt hpos)
    · rw [hpercents]
      exact List.Pairwise.nil
  have hsome {out acked : Nat} (sends : start.Sending blob size total before out acked) :
      PartsOf blob size total (start.sent before) ∧
        (start.sent before ≠ [] → start.Opened before size) ∧
        (start.percents before).Pairwise (· ≤ ·) := by
    refine ⟨?_, fun _ => sends.opened, ?_⟩
    · rw [sends.sent]
      exact partsOf_firstParts sends.room sends.count sends.within
    · rw [sends.percents]
      exact pairwise_percentsTo (Nat.le_trans sends.behind sends.within)
  cases h with
  | waiting sent percents => exact hnone sent percents
  | refused sent percents => exact hnone sent percents
  | sending sends => exact hsome sends
  | ended sends => exact hsome sends

end

/-- A run of an upload, as long as there is a job, sends the parts of its blob one after the other,
each when the one before was acknowledged. -/
theorem lawful_run {upload start : Upload} {kind : UInt8} {file : Bytes} {command : Command}
    (hfile : file.length < UInt32.size) (hstart : upload.request kind file = .ok (start, command))
    {calls : List Call} (hrunning : start.Running calls) :
    (∃ size : UInt32, size.toNat = file.length ∧
      blob kind file =
        [0, 0, kind] ++ (Digest.Md5.digest file).toList ++ Bytes.le32 size ++ file ++
          Bytes.le32 (Digest.Crc32.checksum
            ([0, 0, kind] ++ (Digest.Md5.digest file).toList ++ Bytes.le32 size ++ file))) ∧
    ∃ total room, Lawful start kind file calls total room := by
  have hjob : start.job = some ⟨kind, blob kind file, .awaitingAck⟩ := by
    rw [request] at hstart
    split at hstart
    · cases hstart
    · cases hstart
      rfl
  have hblob : blob kind file ≠ [] := List.cons_ne_nil _ _
  obtain ⟨room, total, hpos, hstanding⟩ := hrunning.exists_standing hblob hjob
  have hbefore {before after : List Call} {call : Call} (heq : calls = before ++ call :: after) :
      ∃ job, (start.run before).job = some job ∧
        Standing start kind (blob kind file) room total before (some job) := by
    subst heq
    obtain ⟨job, hsome⟩ := Option.isSome_iff_exists.1 hrunning.isSome
    exact ⟨job, hsome, hsome ▸ hstanding before _ rfl⟩
  obtain ⟨hparts, hopened, hincreasing⟩ :=
    (hstanding calls [] (List.append_nil _).symm).parts hpos
  refine ⟨⟨.ofNat file.length, ?_, rfl⟩, total, room, ?_⟩
  · rw [UInt32.toNat_ofNat']
    exact Nat.mod_eq_of_lt hfile
  · constructor
    · exact hparts
    · exact hopened
    · intro before call after heq
      obtain ⟨job, hsome, h⟩ := hbefore heq
      exact h.next hsome
    · intro before call after heq
      obtain ⟨job, hsome, h⟩ := hbefore heq
      exact h.completed_iff hpos hsome
    · exact hincreasing
    · intro before call after heq
      obtain ⟨job, hsome, h⟩ := hbefore heq
      exact h.hundred hsome
    · intro before call after heq kind' file'
      obtain ⟨job, hsome, -⟩ := hbefore heq
      exact ⟨request_of_running hsome kind' file', perform_request_of_running hsome kind' file'⟩

/-- The two answers to a file of two parts, among others that are not awaited. -/
def strayCalls : List Call :=
  [.request watchfaceKind [], .ack [0, 1, 0],
    .command ⟨Command.uploadKind, startSubtype, .upload (.ack 0 20)⟩ 100, .ack [0, 2, 0],
    .ack [0, 1], .command ⟨Command.uploadKind, startSubtype, .upload (.ack 0 8)⟩ 100,
    .ack [0, 1, 0], .listen none, .ack [0, 2, 0]]

theorem lawful_run_stray :
    ∃ start command, request {} watchfaceKind [1, 2, 3] = .ok (start, command) ∧
      start.Running strayCalls ∧ (start.run strayCalls).job = none ∧
      ∃ total room, Lawful start watchfaceKind [1, 2, 3] strayCalls total room := by
  have hstart : request {} watchfaceKind [1, 2, 3] =
      .ok ({ job := some ⟨watchfaceKind, blob watchfaceKind [1, 2, 3], .awaitingAck⟩ },
        ⟨Command.uploadKind, startSubtype, .upload
          (.request watchfaceKind (Digest.Md5.digest [1, 2, 3]) 3)⟩) := rfl
  have hrunning : Running
      { job := some ⟨watchfaceKind, blob watchfaceKind [1, 2, 3], .awaitingAck⟩ } strayCalls := by
    rw [Running]
    decide +kernel
  exact ⟨_, _, hstart, hrunning, by decide +kernel, (lawful_run (by decide) hstart hrunning).2⟩

end Upload

end WatchLink
