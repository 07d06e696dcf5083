import WatchLink.Proofs.Device.Answering

/-!
# What the device service asks of its own accord

What a watch says is answered with nothing or with the request for the battery's level, which some
states do not carry.
-/

namespace WatchLink

namespace DeviceService

/-- An outbox whose only command, if any, asks for the battery's level. -/
def OnlyBattery (out : Outbox) : Prop :=
  ∀ asked ∈ out.commands, asked.2 = request batterySubtype

theorem onlyBattery_of_commands {out : Outbox} (h : out.commands = []) : OnlyBattery out := by
  rw [OnlyBattery, h]
  exact List.forall_mem_nil _

theorem onlyBattery_requestBattery : OnlyBattery requestBattery :=
  List.forall_mem_singleton.2 rfl

theorem OnlyBattery.append {a b : Outbox} (ha : OnlyBattery a) (hb : OnlyBattery b) :
    OnlyBattery (a ++ b) :=
  fun asked hmem => (List.mem_append.1 hmem).elim (ha asked) (hb asked)

theorem onlyBattery_reportWearing (s : DeviceService) (wearing : WearingState) :
    OnlyBattery (s.reportWearing wearing).2 := by
  rw [reportWearing]
  simp only
  split <;> exact onlyBattery_of_commands rfl

theorem onlyBattery_reportSleep (s : DeviceService) (sleep : SleepState) :
    OnlyBattery (s.reportSleep sleep).2 := by
  rw [reportSleep]
  simp only
  split <;> exact onlyBattery_of_commands rfl

theorem onlyBattery_handleBasicState (s : DeviceService) (state : BasicDeviceState) :
    OnlyBattery (s.handleBasicState state).2 := by
  refine .append (.append ?_ (onlyBattery_reportSleep _ _)) (onlyBattery_reportWearing _ _)
  split
  · exact onlyBattery_of_commands rfl
  · exact onlyBattery_requestBattery

theorem onlyBattery_handleDeviceState (s : DeviceService) (state : DeviceState) :
    OnlyBattery (s.handleDeviceState state).2 := by
  have hnothing : OnlyBattery {} := onlyBattery_of_commands rfl
  rw [handleDeviceState]
  cases state.wearing.bind WearingState.ofRaw? <;>
    cases state.sleep.bind SleepState.ofRaw? <;>
      refine .append (.append ?_ ?_) onlyBattery_requestBattery
  · exact hnothing
  · exact hnothing
  · exact hnothing
  · exact onlyBattery_reportSleep _ _
  · exact onlyBattery_reportWearing _ _
  · exact hnothing
  · exact onlyBattery_reportWearing _ _
  · exact onlyBattery_reportSleep _ _

theorem onlyBattery_handleInstall (s : DeviceService) (body : Body) :
    OnlyBattery (s.handleInstall body).2 := by
  rw [handleInstall]
  repeat' split
  all_goals exact onlyBattery_of_commands rfl

/-- Whatever the watch says, the device service asks it for nothing but the battery's level. -/
theorem onlyBattery_handle (s : DeviceService) (command : Command) :
    OnlyBattery (s.handle command).2.1 := by
  have hhandled := s.handled command
  generalize s.handle command = answer at hhandled ⊢
  cases hhandled with
  | deviceInfo info => exact onlyBattery_of_commands rfl
  | battery subtype body => exact onlyBattery_of_commands rfl
  | install => exact onlyBattery_handleInstall s _
  | password setting => exact onlyBattery_of_commands rfl
  | findPhone => exact onlyBattery_of_commands rfl
  | menu items => exact onlyBattery_of_commands rfl
  | vibration patterns => exact onlyBattery_of_commands rfl
  | basicState subtype body => exact onlyBattery_handleBasicState s _
  | deviceState subtype body => exact onlyBattery_handleDeviceState s _
  | stateless => exact onlyBattery_requestBattery
  | ignored result => exact onlyBattery_of_commands rfl

end DeviceService

end WatchLink
