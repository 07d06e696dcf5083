import Mathlib.Data.List.Destutter
import WatchLink.Proofs.Device.Answering

/-!
# The log of the watch's status

Three messages report how the watch is: a reading of its battery, its basic state and its state.
None of them has to say everything. What the host is told of wearing and sleep is then the log of
changes: the values that were reported, each once where it is repeated, and without the first, which
replaced nothing that was known. A battery's level is told with the latest that is known of the
charger. Nothing else that the service does has a part in it.
-/

namespace WatchLink

/-- A message that says how the watch is. -/
inductive StatusReport where
  | battery (reading : BatteryReading)
  | basicState (state : BasicDeviceState)
  | deviceState (state : DeviceState)

namespace StatusReport

/-- The report that a command makes. -/
def ofCommand? (command : Command) : Option StatusReport :=
  match command.body with
  | .system (.battery reading) =>
    if command.subtype = DeviceService.batterySubtype then some (battery reading) else none
  | .system (.basicDeviceState state) =>
    if command.subtype = DeviceService.basicStateSubtype then some (basicState state) else none
  | .system (.deviceState state) =>
    if command.subtype = DeviceService.deviceStateSubtype then some (deviceState state) else none
  | _ => none

theorem ofCommand?_eq_battery_iff {command : Command} {reading : BatteryReading} :
    ofCommand? command = some (battery reading) ↔
      command.subtype = DeviceService.batterySubtype ∧
        command.body = .system (.battery reading) := by
  rw [ofCommand?]
  split <;> grind

theorem ofCommand?_eq_basicState_iff {command : Command} {state : BasicDeviceState} :
    ofCommand? command = some (basicState state) ↔
      command.subtype = DeviceService.basicStateSubtype ∧
        command.body = .system (.basicDeviceState state) := by
  rw [ofCommand?]
  split <;> grind

theorem ofCommand?_eq_deviceState_iff {command : Command} {state : DeviceState} :
    ofCommand? command = some (deviceState state) ↔
      command.subtype = DeviceService.deviceStateSubtype ∧
        command.body = .system (.deviceState state) := by
  rw [ofCommand?]
  split <;> grind

/-- Whether the watch is worn. A number that is neither says nothing. -/
def wearing? : StatusReport → Option WearingState
  | battery _ => none
  | basicState state => some (if state.isWorn then .worn else .notWorn)
  | deviceState state => state.wearing.bind WearingState.ofRaw?

/-- Whether its wearer sleeps. A number that is neither says nothing. -/
def sleep? : StatusReport → Option SleepState
  | battery _ => none
  | basicState state => some (if state.isUserAsleep then .asleep else .awake)
  | deviceState state => state.sleep.bind SleepState.ofRaw?

/-- What the charger does. A number that is neither says that it is not known. -/
def charger? : StatusReport → Option BatteryState
  | battery reading => reading.state.map fun raw => (BatteryState.ofRaw? raw).getD .unknown
  | basicState state => some (if state.isCharging then .charging else .normal)
  | deviceState state => state.charging.map fun raw => (BatteryState.ofRaw? raw).getD .unknown

/-- The level of the battery. -/
def level? : StatusReport → Option UInt8
  | battery reading => some reading.level
  | basicState state => state.batteryLevel
  | deviceState _ => none

theorem wearing?_ne_unknown (report : StatusReport) : report.wearing? ≠ some .unknown := by
  cases report with
  | battery reading => simp [wearing?]
  | basicState state => cases h : state.isWorn <;> simp [wearing?, h]
  | deviceState state => cases h : state.wearing <;> grind [wearing?, WearingState.ofRaw?]

theorem sleep?_ne_unknown (report : StatusReport) : report.sleep? ≠ some .unknown := by
  cases report with
  | battery reading => simp [sleep?]
  | basicState state => cases h : state.isUserAsleep <;> simp [sleep?, h]
  | deviceState state => cases h : state.sleep <;> grind [sleep?, SleepState.ofRaw?]

end StatusReport

theorem Outbox.events_append (a b : Outbox) : (a ++ b).events = a.events ++ b.events := rfl

namespace Event

def wearing? : Event → Option WearingState
  | .wearing state => some state
  | _ => none

def sleep? : Event → Option SleepState
  | .sleep state => some state
  | _ => none

def battery? : Event → Option (Option UInt8 × BatteryState)
  | .battery level state => some (level, state)
  | _ => none

/-- An event that is not about the status. -/
def IsOther (event : Event) : Prop :=
  event.battery? = none ∧ event.wearing? = none ∧ event.sleep? = none

end Event

namespace DeviceService

/-- What can be asked of the service, but for forgetting the status. -/
inductive Operation where
  | greet
  | handle (command : Command)
  | requestInstall (image : FirmwareImage)
  | progress (percent : UInt8)
  | finishInstall (success : Bool)
  | setLanguage (host : HostView)
  | setCurrentTime (host : HostView)
  | setPassword (host : HostView)
  | setMenu (host : HostView)
  | setVibration (type : String) (preset : UInt32)
  | findPhoneStop
  | findWatch (start : Bool)
  | configure (host : HostView) (key : String)

/-- The report in an operation. -/
def Operation.report? : Operation → Option StatusReport
  | handle command => StatusReport.ofCommand? command
  | _ => none

/-- The service after an operation, and what it wants sent and told. -/
def perform (s : DeviceService) : Operation → DeviceService × Outbox
  | .greet => (s, greeting)
  | .handle command => ((s.handle command).1, (s.handle command).2.1)
  | .requestInstall image =>
    match s.requestInstall image with
    | .ok answer => answer
    | .error _ => (s, {})
  | .progress _ => (s, {})
  | .finishInstall success => s.finishInstall success
  | .setLanguage host => (s, s.setLanguage host)
  | .setCurrentTime host => (s, DeviceService.setCurrentTime host)
  | .setPassword host => (s, DeviceService.setPassword host)
  | .setMenu host => (s, DeviceService.setMenu host)
  | .setVibration type preset =>
    (s, (DeviceService.setVibration type preset).toOption.getD {})
  | .findPhoneStop => (s, DeviceService.findPhoneStop)
  | .findWatch start => (s, (s.findWatch start).toOption.getD {})
  | .configure host key => (s, (s.configure host key).1)

def run (s : DeviceService) (operations : List Operation) : DeviceService :=
  operations.foldl (fun s operation => (s.perform operation).1) s

/-- What the operations of a run want told. -/
def told (s : DeviceService) : List Operation → List Event
  | [] => []
  | operation :: operations =>
    (s.perform operation).2.events ++ told (s.perform operation).1 operations

/-! ## One operation -/

/-- What an answer does with a report, or with none. -/
structure Heeds (s : DeviceService) (report? : Option StatusReport)
    (answer : DeviceService × Outbox) : Prop where
  battery : answer.1.battery = (report?.bind StatusReport.charger?).getD s.battery
  wearing : answer.1.wearing = (report?.bind StatusReport.wearing?).getD s.wearing
  sleep : answer.1.sleep = (report?.bind StatusReport.sleep?).getD s.sleep
  batteries : answer.2.events.filterMap Event.battery? =
    ((report?.bind StatusReport.level?).map fun level => (some level, answer.1.battery)).toList
  wearings : answer.2.events.filterMap Event.wearing? =
    ((report?.bind StatusReport.wearing?).filter s.wearing.isChange).toList
  sleeps : answer.2.events.filterMap Event.sleep? =
    ((report?.bind StatusReport.sleep?).filter s.sleep.isChange).toList

variable {s : DeviceService}

@[simp] theorem wearings_reportWearing (wearing : WearingState) :
    (s.reportWearing wearing).2.events.filterMap Event.wearing? =
      ((some wearing).filter s.wearing.isChange).toList := by
  rw [reportWearing, Option.filter_some]
  split <;> rfl

@[simp] theorem sleeps_reportWearing (wearing : WearingState) :
    (s.reportWearing wearing).2.events.filterMap Event.sleep? = [] := by
  rw [reportWearing]
  dsimp only
  split <;> rfl

@[simp] theorem batteries_reportWearing (wearing : WearingState) :
    (s.reportWearing wearing).2.events.filterMap Event.battery? = [] := by
  rw [reportWearing]
  dsimp only
  split <;> rfl

@[simp] theorem sleeps_reportSleep (sleep : SleepState) :
    (s.reportSleep sleep).2.events.filterMap Event.sleep? =
      ((some sleep).filter s.sleep.isChange).toList := by
  rw [reportSleep, Option.filter_some]
  split <;> rfl

@[simp] theorem wearings_reportSleep (sleep : SleepState) :
    (s.reportSleep sleep).2.events.filterMap Event.wearing? = [] := by
  rw [reportSleep]
  dsimp only
  split <;> rfl

@[simp] theorem batteries_reportSleep (sleep : SleepState) :
    (s.reportSleep sleep).2.events.filterMap Event.battery? = [] := by
  rw [reportSleep]
  dsimp only
  split <;> rfl

theorem reportCharger_eq (raw : Option UInt32) :
    s.reportCharger raw =
      { s with battery :=
          (raw.map fun raw => (BatteryState.ofRaw? raw).getD .unknown).getD s.battery } := by
  cases raw <;> rfl

theorem heeds_handleBattery (reading : BatteryReading) :
    Heeds s (some (.battery reading)) (s.handleBattery reading) := by
  rw [handleBattery]
  cases h : reading.state <;> constructor <;>
    simp [reportCharger, StatusReport.charger?, StatusReport.wearing?, StatusReport.sleep?,
      StatusReport.level?, Outbox.ofEvent, Event.battery?, Event.wearing?, Event.sleep?, h]

theorem heeds_handleBasicState (state : BasicDeviceState) :
    Heeds s (some (.basicState state)) (s.handleBasicState state) := by
  constructor
  · rfl
  · rfl
  · rfl
  · simp only [handleBasicState, Outbox.events_append, List.filterMap_append,
      batteries_reportSleep, batteries_reportWearing, List.append_nil, Option.bind_some,
      StatusReport.level?]
    cases state.batteryLevel <;> rfl
  · simp only [handleBasicState, Outbox.events_append, List.filterMap_append,
      wearings_reportSleep, wearings_reportWearing, List.append_nil, Option.bind_some,
      StatusReport.wearing?]
    cases state.batteryLevel <;> rfl
  · simp only [handleBasicState, Outbox.events_append, List.filterMap_append,
      sleeps_reportSleep, sleeps_reportWearing, List.append_nil, Option.bind_some,
      StatusReport.sleep?]
    cases state.batteryLevel <;> rfl

theorem heeds_handleDeviceState (state : DeviceState) :
    Heeds s (some (.deviceState state)) (s.handleDeviceState state) := by
  have hasked : requestBattery.events = [] := rfl
  rw [handleDeviceState]
  cases hwearing : state.wearing.bind WearingState.ofRaw? <;>
    cases hsleep : state.sleep.bind SleepState.ofRaw? <;>
      constructor <;>
        simp only [reportCharger_eq, Outbox.events_append, List.filterMap_append, hasked,
          batteries_reportSleep, batteries_reportWearing, wearings_reportSleep,
          wearings_reportWearing, sleeps_reportSleep, sleeps_reportWearing, List.append_nil,
          Option.bind_some, StatusReport.level?, StatusReport.wearing?, StatusReport.sleep?,
          StatusReport.charger?, hwearing, hsleep] <;>
        rfl

/-- An answer that leaves the status as it was and tells nothing of it. -/
theorem heeds_none {device : DeviceService} {out : Outbox}
    (status : device.battery = s.battery ∧ device.wearing = s.wearing ∧ device.sleep = s.sleep)
    (events : ∀ event ∈ out.events, event.IsOther) : Heeds s none (device, out) where
  battery := status.1
  wearing := status.2.1
  sleep := status.2.2
  batteries := List.filterMap_eq_nil_iff.2 fun event hmem => (events event hmem).1
  wearings := List.filterMap_eq_nil_iff.2 fun event hmem => (events event hmem).2.1
  sleeps := List.filterMap_eq_nil_iff.2 fun event hmem => (events event hmem).2.2

theorem heeds_of_untold {out : Outbox} (h : out.events = []) : Heeds s none (s, out) :=
  heeds_none ⟨rfl, rfl, rfl⟩ (by simp [h])

theorem heeds_ofEvent {event : Event} (h : event.IsOther) : Heeds s none (s, .ofEvent event) :=
  heeds_none ⟨rfl, rfl, rfl⟩ (List.forall_mem_singleton.2 h)

theorem heeds_handle_of_report {command : Command} {report : StatusReport}
    (h : StatusReport.ofCommand? command = some report) :
    Heeds s (some report) ((s.handle command).1, (s.handle command).2.1) := by
  cases report with
  | battery reading =>
      obtain ⟨hsubtype, hbody⟩ := StatusReport.ofCommand?_eq_battery_iff.1 h
      have hhandle : s.handle command =
          ((s.handleBattery reading).1, (s.handleBattery reading).2, .ok ()) := by
        rw [handle, hsubtype, hbody]
        rfl
      rw [hhandle]
      exact heeds_handleBattery reading
  | basicState state =>
      obtain ⟨hsubtype, hbody⟩ := StatusReport.ofCommand?_eq_basicState_iff.1 h
      have hhandle : s.handle command =
          ((s.handleBasicState state).1, (s.handleBasicState state).2, .ok ()) := by
        rw [handle, hsubtype, hbody]
        rfl
      rw [hhandle]
      exact heeds_handleBasicState state
  | deviceState state =>
      obtain ⟨hsubtype, hbody⟩ := StatusReport.ofCommand?_eq_deviceState_iff.1 h
      have hhandle : s.handle command =
          ((s.handleDeviceState state).1, (s.handleDeviceState state).2, .ok ()) := by
        rw [handle, hsubtype, hbody]
        rfl
      rw [hhandle]
      exact heeds_handleDeviceState state

theorem heeds_handleInstall (body : Body) : Heeds s none (s.handleInstall body) := by
  rw [handleInstall]
  split
  · split
    · exact heeds_none ⟨rfl, rfl, rfl⟩ (List.forall_mem_singleton.2 ⟨rfl, rfl, rfl⟩)
    · exact heeds_none ⟨rfl, rfl, rfl⟩ (List.forall_mem_nil _)
  · exact heeds_of_untold rfl

/-- A command that makes no report. -/
theorem heeds_handle_of_none {command : Command} (h : StatusReport.ofCommand? command = none) :
    Heeds s none ((s.handle command).1, (s.handle command).2.1) := by
  have hhandled := s.handled command
  generalize s.handle command = answer at hhandled ⊢
  cases hhandled with
  | deviceInfo info =>
      exact heeds_none ⟨rfl, rfl, rfl⟩
        (List.forall_mem_cons.2 ⟨⟨rfl, rfl, rfl⟩, List.forall_mem_singleton.2 ⟨rfl, rfl, rfl⟩⟩)
  | battery subtype body =>
      cases h.symm.trans (StatusReport.ofCommand?_eq_battery_iff.2 ⟨subtype, body⟩)
  | install => exact heeds_handleInstall _
  | password setting => exact heeds_ofEvent ⟨rfl, rfl, rfl⟩
  | findPhone => exact heeds_ofEvent ⟨rfl, rfl, rfl⟩
  | menu items => exact heeds_ofEvent ⟨rfl, rfl, rfl⟩
  | vibration patterns => exact heeds_ofEvent ⟨rfl, rfl, rfl⟩
  | basicState subtype body =>
      cases h.symm.trans (StatusReport.ofCommand?_eq_basicState_iff.2 ⟨subtype, body⟩)
  | deviceState subtype body =>
      cases h.symm.trans (StatusReport.ofCommand?_eq_deviceState_iff.2 ⟨subtype, body⟩)
  | stateless => exact heeds_of_untold rfl
  | ignored result => exact heeds_of_untold rfl

theorem heeds_handle (command : Command) :
    Heeds s (StatusReport.ofCommand? command) ((s.handle command).1, (s.handle command).2.1) := by
  cases hreport : StatusReport.ofCommand? command with
  | none => exact heeds_handle_of_none hreport
  | some report => exact heeds_handle_of_report hreport

theorem events_setPassword (host : HostView) :
    (DeviceService.setPassword host).events = [] := by
  simp only [DeviceService.setPassword]
  split <;> rfl

theorem events_setMenu (host : HostView) : (DeviceService.setMenu host).events = [] := by
  rw [DeviceService.setMenu]
  split <;> rfl

theorem events_setVibration (type : String) (preset : UInt32) :
    ((DeviceService.setVibration type preset).toOption.getD {}).events = [] := by
  rw [DeviceService.setVibration]
  split <;> rfl

theorem events_findWatch (start : Bool) : ((s.findWatch start).toOption.getD {}).events = [] := by
  rw [findWatch]
  split <;> rfl

theorem events_configure (host : HostView) (key : String) :
    (s.configure host key).1.events = [] := by
  rw [configure]
  repeat' split
  · rfl
  · rfl
  · exact events_setPassword host
  · exact events_setMenu host
  · rfl

theorem heeds_perform (operation : Operation) :
    Heeds s operation.report? (s.perform operation) := by
  cases operation with
  | handle command => exact heeds_handle command
  | greet => exact heeds_of_untold rfl
  | progress percent => exact heeds_of_untold rfl
  | setLanguage host => exact heeds_of_untold rfl
  | setCurrentTime host => exact heeds_of_untold rfl
  | setPassword host => exact heeds_of_untold (events_setPassword host)
  | setMenu host => exact heeds_of_untold (events_setMenu host)
  | setVibration type preset => exact heeds_of_untold (events_setVibration type preset)
  | findPhoneStop => exact heeds_of_untold rfl
  | findWatch start => exact heeds_of_untold (events_findWatch start)
  | configure host key => exact heeds_of_untold (events_configure host key)
  | finishInstall success =>
      exact heeds_none ⟨rfl, rfl, rfl⟩
        (List.forall_mem_cons.2 ⟨⟨rfl, rfl, rfl⟩, List.forall_mem_singleton.2 ⟨rfl, rfl, rfl⟩⟩)
  | requestInstall image =>
      show Heeds s none (s.perform (.requestInstall image))
      rw [perform, requestInstall]
      by_cases hfirmware : image.isFirmware = true
      · rw [if_pos hfirmware]
        cases s.install with
        | idle => exact heeds_none ⟨rfl, rfl, rfl⟩ (List.forall_mem_nil _)
        | requested other => exact heeds_of_untold rfl
        | uploading other => exact heeds_of_untold rfl
      · rw [if_neg hfirmware]
        exact heeds_of_untold rfl

/-! ## A run -/

/-- The values of a kind that the operations report, in order. -/
def reported {α : Type} (value? : StatusReport → Option α) (operations : List Operation) :
    List α :=
  operations.filterMap fun operation => operation.report?.bind value?

theorem reported_cons {α : Type} {value? : StatusReport → Option α} (operation : Operation)
    (operations : List Operation) :
    reported value? (operation :: operations) =
      (operation.report?.bind value?).toList ++ reported value? operations := by
  rw [reported, List.filterMap_cons]
  cases operation.report?.bind value? <;> rfl

/-- A part of the status is what was last reported of it. -/
theorem cached_run {α : Type} {cache : DeviceService → α} {value? : StatusReport → Option α}
    (step : ∀ s operation, cache (perform s operation).1 =
      (operation.report?.bind value?).getD (cache s)) (s : DeviceService)
    (operations : List Operation) :
    cache (s.run operations) = (reported value? operations).getLast?.getD (cache s) := by
  induction operations generalizing s with
  | nil => rfl
  | cons operation operations ih =>
      rw [run, List.foldl_cons, ← run, ih, step, reported_cons]
      cases operation.report?.bind value? with
      | none => rfl
      | some value => simp [List.getLast?_cons]

/-- What is known of a value, in a list. -/
def known {α : Type} [DecidableEq α] (unknown value : α) : List α :=
  if value = unknown then [] else [value]

theorem head?_destutter' {α : Type} [DecidableEq α] (first : α) (rest : List α) :
    (rest.destutter' (· ≠ ·) first).head? = some first := by
  induction rest generalizing first with
  | nil => rfl
  | cons second rest ih =>
      by_cases h : first ≠ second
      · rw [List.destutter'_cons_pos _ h]
        rfl
      · rw [List.destutter'_cons_neg _ h]
        exact ih first

theorem tail_destutter_cons {α : Type} [DecidableEq α] (first second : α) (rest : List α) :
    ((first :: second :: rest).destutter (· ≠ ·)).tail =
      (if first ≠ second then [second] else []) ++
        ((second :: rest).destutter (· ≠ ·)).tail := by
  rw [List.destutter_cons', List.destutter_cons']
  by_cases h : first = second
  · rw [if_neg (not_not.2 h), List.destutter'_cons_neg _ (not_not.2 h), h]
    rfl
  · rw [if_pos h, List.destutter'_cons_pos _ h, List.tail_cons]
    exact (List.cons_head?_tail (head?_destutter' second rest)).symm

/-- What is told of a part of the status are the changes of what was known of it. -/
theorem changes_told {α : Type} [DecidableEq α] {unknown : α} {cache : DeviceService → α}
    {value? : StatusReport → Option α} {event? : Event → Option α}
    (step : ∀ s operation, cache (perform s operation).1 =
      (operation.report?.bind value?).getD (cache s))
    (events : ∀ s operation, (perform s operation).2.events.filterMap event? =
      ((operation.report?.bind value?).filter fun value =>
        cache s ≠ unknown && cache s ≠ value).toList)
    (ne_unknown : ∀ report : StatusReport, value? report ≠ some unknown)
    (s : DeviceService) (operations : List Operation) :
    (s.told operations).filterMap event? =
      ((known unknown (cache s) ++ reported value? operations).destutter (· ≠ ·)).tail := by
  induction operations generalizing s with
  | nil =>
      rw [known]
      split <;> rfl
  | cons operation operations ih =>
      rw [told, List.filterMap_append, events, ih, step, reported_cons]
      cases hvalue : operation.report?.bind value? with
      | none => rfl
      | some value =>
          -- A report is never of the unknown, so from here on something is known.
          have hknown : known unknown value = [value] := by
            obtain ⟨report, -, hreport⟩ := Option.bind_eq_some_iff.1 hvalue
            refine if_neg ?_
            rintro rfl
            exact ne_unknown report hreport
          rw [Option.getD_some, hknown, Option.filter_some, known]
          by_cases hcache : cache s = unknown
          · simp [hcache]
          · simp only [hcache, if_false, Option.toList_some, List.singleton_append,
              tail_destutter_cons]
            by_cases hsame : cache s = value <;> simp [hsame, hcache]

/-- The status after a run, and what was and what will be told of it, read off the reports. -/
structure Logged (s : DeviceService) (operations : List Operation) : Prop where
  wearings : (s.told operations).filterMap Event.wearing? =
    ((reported StatusReport.wearing? operations).destutter (· ≠ ·)).tail
  sleeps : (s.told operations).filterMap Event.sleep? =
    ((reported StatusReport.sleep? operations).destutter (· ≠ ·)).tail
  wearing : (s.run operations).wearing =
    (reported StatusReport.wearing? operations).getLast?.getD .unknown
  sleep : (s.run operations).sleep =
    (reported StatusReport.sleep? operations).getLast?.getD .unknown
  battery : (s.run operations).battery =
    (reported StatusReport.charger? operations).getLast?.getD .unknown
  /-- What is told of the battery by the operation that comes next. -/
  batteries : ∀ operation,
    ((s.run operations).perform operation).2.events.filterMap Event.battery? =
      ((operation.report?.bind StatusReport.level?).map fun level => (some level,
        (reported StatusReport.charger? (operations ++ [operation])).getLast?.getD .unknown)).toList
  /-- The operation that comes next leaves alone what it reports nothing of. -/
  kept : ∀ operation,
    (operation.report?.bind StatusReport.wearing? = none →
      ((s.run operations).perform operation).1.wearing = (s.run operations).wearing) ∧
    (operation.report?.bind StatusReport.sleep? = none →
      ((s.run operations).perform operation).1.sleep = (s.run operations).sleep) ∧
    (operation.report?.bind StatusReport.charger? = none →
      ((s.run operations).perform operation).1.battery = (s.run operations).battery)

/-- Once the status was forgotten, it is the log of what the watch reports, whatever else is asked
of the service in between. -/
theorem status_logged (s : DeviceService) (operations : List Operation) :
    Logged s.resetStatus operations where
  wearings := changes_told (fun _ operation => (heeds_perform operation).wearing)
    (fun _ operation => (heeds_perform operation).wearings) StatusReport.wearing?_ne_unknown
    s.resetStatus operations
  sleeps := changes_told (fun _ operation => (heeds_perform operation).sleep)
    (fun _ operation => (heeds_perform operation).sleeps) StatusReport.sleep?_ne_unknown
    s.resetStatus operations
  wearing := cached_run (fun _ operation => (heeds_perform operation).wearing) s.resetStatus
    operations
  sleep := cached_run (fun _ operation => (heeds_perform operation).sleep) s.resetStatus operations
  battery := cached_run (fun _ operation => (heeds_perform operation).battery) s.resetStatus
    operations
  batteries operation := by
    have hlatest := cached_run (fun _ operation => (heeds_perform operation).battery)
      s.resetStatus (operations ++ [operation])
    rw [run, List.foldl_append] at hlatest
    rw [(heeds_perform operation).batteries]
    exact congrArg (fun state => (Option.map (fun level => (some level, state)) _).toList) hlatest
  kept operation := by
    refine ⟨fun h => ?_, fun h => ?_, fun h => ?_⟩
    · rw [(heeds_perform operation).wearing, h]
      rfl
    · rw [(heeds_perform operation).sleep, h]
      rfl
    · rw [(heeds_perform operation).battery, h]
      rfl

end DeviceService

end WatchLink
