import WatchLink.Proofs.Session.Record
import WatchLink.Proofs.Upload.Answers

/-!
# What was delivered

For a reading of the operations, a record says which upload parts were written and which of them
were acknowledged. Parts are written in order when each transaction has at most one and every part
waits for the acknowledgement of the one before; a blob is delivered when its parts were written so,
up to the last, and the last was acknowledged too.
-/

namespace WatchLink

namespace Moment

variable (read : RadioOp → Option Bytes)

/-- The upload parts that the radio took in a moment. -/
def parts : Moment → List Bytes
  | .did (.submitted transaction) => transaction.ops.filterMap read
  | _ => []

def allParts (moments : List Moment) : List Bytes := moments.flatMap (parts read)

/-- The part that was written last has been acknowledged since. -/
def Acked (moments : List Moment) : Prop :=
  ∃ before ack after, moments = before ++ .heard (.uploadAck ack) :: after ∧
    Upload.Accepts ack (.ofNat (allParts read before).length) ∧ allParts read after = []

/-- Parts are written one at a time, each after the one before has been acknowledged. -/
def Orderly (moments : List Moment) : Prop :=
  ∀ before moment after, moments = before ++ moment :: after → parts read moment = [] ∨
    (∃ part, parts read moment = [part]) ∧ (allParts read before = [] ∨ Acked read before)

/-- The parts of a blob were written and acknowledged one after the other, all of them. -/
structure Delivered (blob : Bytes) (moments : List Moment) : Prop where
  parts : ∃ (total : UInt16) (slices : List Bytes),
    allParts read moments = slices.mapIdx (fun i slice =>
      Bytes.le16 total ++ Bytes.le16 (.ofNat (i + 1)) ++ slice) ∧
    slices.length = total.toNat ∧ slices.flatten = blob
  orderly : Orderly read moments
  acked : Acked read moments

/-- These are the moments since the installation of an image was asked for. -/
def Begun (moments : List Moment) (image : FirmwareImage) (since : List Moment) : Prop :=
  (∃ earlier, moments = earlier ++ .installing image :: since) ∧ ∀ other, .installing other ∉ since

def isRefusal : Moment → Bool
  | .did (.refused _) => true
  | _ => false

/-- No transaction was refused. -/
def Untroubled (moments : List Moment) : Prop := ∀ moment ∈ moments, moment.isRefusal = false

instance (moments : List Moment) : Decidable (Untroubled moments) :=
  inferInstanceAs (Decidable (∀ moment ∈ moments, moment.isRefusal = false))

/-- No installation is reported done. -/
def Untold (moments : List Moment) : Prop :=
  ∀ text, .did (.told (.installStatus text true)) ∉ moments

section

variable {read : RadioOp → Option Bytes} {moments more : List Moment}

theorem Begun.append {image : FirmwareImage} {since : List Moment} (h : Begun moments image since)
    (hmore : ∀ other, .installing other ∉ more) :
    Begun (moments ++ more) image (since ++ more) := by
  obtain ⟨⟨earlier, rfl⟩, hnone⟩ := h
  refine ⟨⟨earlier, by rw [List.append_assoc, List.cons_append]⟩, ?_⟩
  intro other hmem
  rcases List.mem_append.1 hmem with hold | hnew
  · exact hnone other hold
  · exact hmore other hnew

theorem untroubled_append : Untroubled (moments ++ more) ↔ Untroubled moments ∧ Untroubled more :=
  List.forall_mem_append

theorem Untold.append (h : Untold moments) (hmore : Untold more) : Untold (moments ++ more) := by
  intro text hmem
  rcases List.mem_append.1 hmem with hold | hnew
  · exact h text hold
  · exact hmore text hnew

theorem allParts_append : allParts read (moments ++ more) =
    allParts read moments ++ allParts read more := List.flatMap_append

theorem allParts_eq_nil (h : ∀ moment ∈ moments, parts read moment = []) :
    allParts read moments = [] := List.flatMap_eq_nil_iff.2 h

theorem orderly_of_allParts (h : allParts read moments = []) : Orderly read moments := by
  rintro before moment after rfl
  exact .inl (List.flatMap_eq_nil_iff.1 h moment (List.mem_append_right _ List.mem_cons_self))

theorem Orderly.snoc (h : Orderly read moments) {moment : Moment}
    (hlast : parts read moment = [] ∨
      (∃ part, parts read moment = [part]) ∧ (allParts read moments = [] ∨ Acked read moments)) :
    Orderly read (moments ++ [moment]) := by
  intro before split after hsplit
  rcases List.eq_nil_or_concat after with rfl | ⟨rest, last, rfl⟩
  · obtain ⟨rfl, hsame⟩ := List.append_inj' hsplit rfl
    cases hsame
    exact hlast
  · rw [List.concat_eq_append, ← List.cons_append, ← List.append_assoc] at hsplit
    exact h before split rest (List.append_inj_left' hsplit rfl)

theorem Orderly.quiet (h : Orderly read moments) (hmore : ∀ moment ∈ more, parts read moment = []) :
    Orderly read (moments ++ more) := by
  induction more generalizing moments with
  | nil => rwa [List.append_nil]
  | cons moment more ih =>
      have hfirst := h.snoc (.inl (hmore moment List.mem_cons_self))
      have hrest := ih hfirst fun next hmem => hmore next (List.mem_cons_of_mem _ hmem)
      rwa [List.append_assoc] at hrest

theorem untold_news {L S R : Type} {s t : Session L S R} (more : List Effect)
    (heffects : t.effects = more ++ s.effects)
    (h : ∀ text, .told (.installStatus text true) ∉ more) : Untold (s.news t) := by
  intro text hmem
  rw [Session.news_of_eq heffects] at hmem
  obtain ⟨effect, heffect, ⟨⟩⟩ := List.mem_map.1 hmem
  exact h text (List.mem_reverse.1 heffect)

theorem acked_of_accepts {ack : Bytes} {index : UInt16} (haccepts : Upload.Accepts ack index)
    (hindex : (allParts read moments).length = index.toNat)
    (hmore : ∀ moment ∈ more, parts read moment = []) :
    Acked read (moments ++ .heard (.uploadAck ack) :: more) := by
  refine ⟨moments, ack, more, rfl, ?_, allParts_eq_nil hmore⟩
  rwa [hindex, UInt16.ofNat_toNat]

end

end Moment

end WatchLink
