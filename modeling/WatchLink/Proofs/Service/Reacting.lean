import WatchLink.Proofs.Device.Answering
import WatchLink.Proofs.Service.Routing

/-!
# What services ask for

An outbox is plain when it asks for no upload and tells nothing about the connection or an
installation. The device service answers with plain outboxes and leaves the installation as it is,
but for two cases: the watch agrees to the installation it was asked for, or it declines. Services
that a host has added may ask for anything, so whatever is not plain in an outbox is theirs: they
answer for it, and where there are none it is not there.
-/

namespace WatchLink

/-- What is told about the connection and about an installation. -/
def Event.isReserved : Event → Bool
  | .connectionState _ | .authenticationFailed | .busy _ | .installStatus _ _ => true
  | .versionInfo _ _ | .deviceInfo _ _ | .battery _ _ | .wearing _ | .sleep _ | .findPhone _
  | .updatePreferences _ | .activityData _ => false

namespace Outbox

structure Plain (out : Outbox) : Prop where
  upload : out.upload = none
  events : ∀ event ∈ out.events, event.isReserved = false

theorem plain_empty : Plain {} := ⟨rfl, by simp⟩

theorem plain_ofCommand (task : String) (command : Command) : (ofCommand task command).Plain :=
  ⟨rfl, by simp [ofCommand]⟩

theorem plain_ofEvent {event : Event} (h : event.isReserved = false) : (ofEvent event).Plain :=
  ⟨rfl, by simpa [ofEvent] using h⟩

theorem Plain.append {a b : Outbox} (ha : a.Plain) (hb : b.Plain) : (a ++ b).Plain := by
  refine ⟨?_, ?_⟩
  · change b.upload.or a.upload = none
    rw [ha.upload, hb.upload]
    rfl
  · intro event hmem
    rcases List.mem_append.1 hmem with h | h
    · exact ha.events event h
    · exact hb.events event h

end Outbox

namespace DeviceService

open Outbox (plain_empty plain_ofCommand plain_ofEvent)

/-- What a command can do to the device service. -/
inductive Reacted (s : DeviceService) : DeviceService × Outbox → Prop
  | plain {device : DeviceService} {out : Outbox} (install : device.install = s.install)
      (plain : out.Plain) : Reacted s (device, out)
  | agreed {image : FirmwareImage} (requested : s.install = .requested image) :
      Reacted s ({ s with install := .uploading image },
        { events := [.busy (some s.messages.updatingFirmware)]
          upload := some ⟨Upload.firmwareKind, image.bytes, .deviceService⟩ })
  | declined {image : FirmwareImage} (requested : s.install = .requested image) :
      Reacted s ({ s with install := .idle }, {})

variable (s : DeviceService)

theorem reacted_handleInstall (body : Body) : Reacted s (s.handleInstall body) := by
  rw [handleInstall]
  split
  · rename_i hrequested
    split
    · exact .agreed hrequested
    · exact .declined hrequested
  · exact .plain rfl plain_empty

theorem reportWearing_plain (wearing : WearingState) :
    (s.reportWearing wearing).1.install = s.install ∧ (s.reportWearing wearing).2.Plain := by
  rw [reportWearing]
  refine ⟨rfl, ?_⟩
  simp only
  split
  · exact plain_ofEvent rfl
  · exact plain_empty

theorem reportSleep_plain (sleep : SleepState) :
    (s.reportSleep sleep).1.install = s.install ∧ (s.reportSleep sleep).2.Plain := by
  rw [reportSleep]
  refine ⟨rfl, ?_⟩
  simp only
  split
  · exact plain_ofEvent rfl
  · exact plain_empty

theorem install_reportCharger (raw : Option UInt32) :
    (s.reportCharger raw).install = s.install := by
  cases raw <;> rfl

theorem reacted_handleBattery (reading : BatteryReading) : Reacted s (s.handleBattery reading) :=
  .plain (install_reportCharger s _) (plain_ofEvent rfl)

theorem reacted_handleBasicState (state : BasicDeviceState) :
    Reacted s (s.handleBasicState state) := by
  obtain ⟨hsleep, hsleepOut⟩ := reportSleep_plain
    { s with battery := if state.isCharging then .charging else .normal }
    (if state.isUserAsleep then .asleep else .awake)
  obtain ⟨hworn, hwornOut⟩ := reportWearing_plain
    (reportSleep { s with battery := if state.isCharging then .charging else .normal }
      (if state.isUserAsleep then .asleep else .awake)).1
    (if state.isWorn then .worn else .notWorn)
  refine .plain (hworn.trans hsleep) (.append (.append ?_ hsleepOut) hwornOut)
  split
  · exact plain_ofEvent rfl
  · exact plain_ofCommand _ _

theorem reacted_handleDeviceState (state : DeviceState) :
    Reacted s (s.handleDeviceState state) := by
  have hbattery : requestBattery.Plain := plain_ofCommand _ _
  rw [handleDeviceState]
  cases state.wearing.bind WearingState.ofRaw? with
  | none =>
      have hcharger := install_reportCharger s state.charging
      cases state.sleep.bind SleepState.ofRaw? with
      | none => exact .plain hcharger (.append (.append plain_empty plain_empty) hbattery)
      | some sleep =>
          obtain ⟨hsleep, hplain⟩ := reportSleep_plain (s.reportCharger state.charging) sleep
          exact .plain (hsleep.trans hcharger) (.append (.append plain_empty hplain) hbattery)
  | some wearing =>
      obtain ⟨hworn, hwornPlain⟩ := s.reportWearing_plain wearing
      have hcharger := install_reportCharger (s.reportWearing wearing).1 state.charging
      cases state.sleep.bind SleepState.ofRaw? with
      | none =>
          exact .plain (hcharger.trans hworn) (.append (.append hwornPlain plain_empty) hbattery)
      | some sleep =>
          obtain ⟨hsleep, hplain⟩ :=
            reportSleep_plain ((s.reportWearing wearing).1.reportCharger state.charging) sleep
          exact .plain (hsleep.trans (hcharger.trans hworn))
            (.append (.append hwornPlain hplain) hbattery)

/-- The list is complete. -/
theorem reacted (command : Command) : Reacted s ((s.handle command).1, (s.handle command).2.1) := by
  have hevent {event : Event} (h : event.isReserved = false) : Reacted s (s, .ofEvent event) :=
    .plain rfl (plain_ofEvent h)
  have hhandled := s.handled command
  generalize s.handle command = answer at hhandled ⊢
  cases hhandled with
  | deviceInfo info => exact .plain rfl ⟨rfl, by simp [handleDeviceInfo, Event.isReserved]⟩
  | battery subtype body => exact reacted_handleBattery s _
  | install => exact reacted_handleInstall s _
  | password setting => exact hevent rfl
  | findPhone => exact hevent rfl
  | menu items => exact hevent rfl
  | vibration patterns => exact hevent rfl
  | basicState subtype body => exact reacted_handleBasicState s _
  | deviceState subtype body => exact reacted_handleDeviceState s _
  | stateless => exact .plain rfl (plain_ofCommand _ _)
  | ignored result => exact .plain rfl plain_empty

theorem plain_greeting : greeting.Plain := ⟨rfl, by simp [greeting]⟩

theorem plain_setLanguage (host : HostView) : (s.setLanguage host).Plain := plain_ofCommand _ _

theorem plain_setCurrentTime (host : HostView) : (setCurrentTime host).Plain := plain_ofCommand _ _

theorem plain_setPassword (host : HostView) : (setPassword host).Plain := by
  simp only [setPassword]
  split
  · exact plain_empty
  · exact plain_ofCommand _ _

theorem plain_setMenu (host : HostView) : (setMenu host).Plain := by
  rw [setMenu]
  split
  · exact plain_ofCommand _ _
  · exact plain_empty

theorem plain_configure (host : HostView) (key : String) : (s.configure host key).1.Plain := by
  rw [configure]
  repeat' split
  · exact s.plain_setLanguage host
  · exact plain_setCurrentTime host
  · exact plain_setPassword host
  · exact plain_setMenu host
  · exact plain_empty

theorem plain_findWatch {start : Bool} {out : Outbox} (h : s.findWatch start = .ok out) :
    out.Plain := by
  rw [findWatch] at h
  split at h
  · cases h
    exact plain_ofCommand _ _
  · cases h

theorem plain_setVibration {type : String} {preset : UInt32} {out : Outbox}
    (h : setVibration type preset = .ok out) : out.Plain := by
  rw [setVibration] at h
  split at h
  · cases h
    exact plain_ofCommand _ _
  · cases h

end DeviceService

/-! ## Added services -/

/-- An outbox that a service of this type can fill. -/
inductive Service.Fills (S : Type) [Service S] : Outbox → Prop
  | authenticated (service : S) (host : HostView) : Fills S (Service.onAuthenticated service host).2
  | command (service : S) (host : HostView) (command : Command) :
      Fills S (Service.onCommand service host command).2.1
  | configuration (service : S) (host : HostView) (key : String) :
      Fills S (Service.onConfiguration service host key).2.1

namespace Registry

variable {S : Type} [Service S] (registry : Registry S) (host : HostView)

/-- A service that was added can have told the event. -/
def MayTell (event : Event) : Prop :=
  registry.services ≠ [] ∧ ∃ out, Service.Fills S out ∧ event ∈ out.events

/-- A service that was added can have asked for the upload. -/
def MayAsk (request : UploadRequest) : Prop :=
  registry.services ≠ [] ∧ ∃ out, Service.Fills S out ∧ out.upload = some request

/-- Whatever is not plain in an outbox can be of a service that was added. -/
structure AnswersFor (out : Outbox) : Prop where
  events : ∀ event ∈ out.events, event.isReserved = true → registry.MayTell event
  upload : ∀ request, out.upload = some request → registry.MayAsk request

variable {registry}

theorem answersFor_of_plain {out : Outbox} (h : out.Plain) : registry.AnswersFor out where
  events event hmem hreserved := by
    rw [h.events event hmem] at hreserved
    cases hreserved
  upload request hrequest := by
    rw [h.upload] at hrequest
    cases hrequest

theorem answersFor_of_fills {out : Outbox} (hservices : registry.services ≠ [])
    (h : Service.Fills S out) : registry.AnswersFor out where
  events _ hmem _ := ⟨hservices, out, h, hmem⟩
  upload _ hrequest := ⟨hservices, out, h, hrequest⟩

theorem AnswersFor.append {a b : Outbox} (ha : registry.AnswersFor a)
    (hb : registry.AnswersFor b) : registry.AnswersFor (a ++ b) where
  events event hmem := (List.mem_append.1 hmem).elim (ha.events event) (hb.events event)
  upload request hrequest := by
    have hor : b.upload.or a.upload = some request := hrequest
    rcases Option.or_eq_some_iff.1 hor with h | ⟨-, h⟩
    · exact hb.upload request h
    · exact ha.upload request h

/-- What matters is whether any service was added. -/
theorem MayTell.of_alike {other : Registry S} {event : Event} (h : registry.MayTell event)
    (alike : registry.Alike other) : other.MayTell event :=
  h.imp_left (mt alike.services_eq_nil_iff.1)

theorem AnswersFor.of_alike {other : Registry S} {out : Outbox} (h : registry.AnswersFor out)
    (alike : registry.Alike other) : other.AnswersFor out where
  events event hmem hreserved := (h.events event hmem hreserved).of_alike alike
  upload request hrequest :=
    (h.upload request hrequest).imp_left (mt alike.services_eq_nil_iff.1)

variable (registry)

theorem answersFor_onAuthenticated :
    registry.AnswersFor (registry.onAuthenticated host).2 := by
  rw [onAuthenticated]
  refine List.foldlRecOn (motive := registry.AnswersFor) _ _
    (answersFor_of_plain Outbox.plain_empty) ?_
  intro out hout answer hmem
  obtain ⟨service, hservice, rfl⟩ := List.mem_map.1 hmem
  exact hout.append
    (answersFor_of_fills (List.ne_nil_of_mem hservice) (.authenticated service host))

theorem answersFor_onCommand (index : Nat) (command : Command) :
    registry.AnswersFor (registry.onCommand index host command).2.1 := by
  rw [onCommand]
  split
  · rename_i service hservice
    refine answersFor_of_fills ?_ (.command service host command)
    intro hnil
    rw [service?, hnil] at hservice
    cases hservice
  · exact answersFor_of_plain Outbox.plain_empty

theorem answersFor_onConfiguration (key : String) :
    registry.AnswersFor (registry.onConfiguration host key).2.1 := by
  have hoffer (services : List S) (h : ∀ service ∈ services, registry.services ≠ []) :
      registry.AnswersFor (offer host key services).2.1 := by
    induction services with
    | nil => exact answersFor_of_plain Outbox.plain_empty
    | cons service services ih =>
        obtain ⟨hne, hrest⟩ := List.forall_mem_cons.1 h
        have hservice := answersFor_of_fills hne (.configuration service host key)
        rw [offer]
        simp only
        split
        · exact hservice
        · exact hservice.append (ih hrest)
  exact hoffer registry.services fun service hmem => List.ne_nil_of_mem hmem

end Registry

end WatchLink
