import WatchLink.Device

/-!
# What a command from the watch can come to

The device service goes by the subtype of a command and by what its body holds. The list of its
answers is complete, so what is to be said of all commands is said answer by answer.
-/

namespace WatchLink.DeviceService

/-- The answers of the service to a command. -/
inductive Handled (s : DeviceService) (command : Command) :
    DeviceService × Outbox × Except LinkError Unit → Prop
  | deviceInfo (info : DeviceInfo) : Handled s command (s, handleDeviceInfo info, .ok ())
  | battery {reading : BatteryReading} (subtype : command.subtype = batterySubtype)
      (body : command.body = .system (.battery reading)) :
      Handled s command ((s.handleBattery reading).1, (s.handleBattery reading).2, .ok ())
  | install :
      Handled s command
        ((s.handleInstall command.body).1, (s.handleInstall command.body).2, .ok ())
  | password (setting : PasswordSetting) : Handled s command (s, handlePassword setting, .ok ())
  | findPhone : Handled s command (s, handleFindPhone command.body, .ok ())
  | menu (items : List DisplayItem) : Handled s command (s, s.handleMenu items, .ok ())
  | vibration (patterns : VibrationPatterns) :
      Handled s command (s, handleVibration patterns, .ok ())
  | basicState {state : BasicDeviceState} (subtype : command.subtype = basicStateSubtype)
      (body : command.body = .system (.basicDeviceState state)) :
      Handled s command ((s.handleBasicState state).1, (s.handleBasicState state).2, .ok ())
  | deviceState {state : DeviceState} (subtype : command.subtype = deviceStateSubtype)
      (body : command.body = .system (.deviceState state)) :
      Handled s command ((s.handleDeviceState state).1, (s.handleDeviceState state).2, .ok ())
  /-- There is no state in the body. -/
  | stateless : Handled s command (s, requestBattery, .ok ())
  | ignored (result : Except LinkError Unit) : Handled s command (s, {}, result)

/-- The list is complete. -/
theorem handled (s : DeviceService) (command : Command) :
    Handled s command (s.handle command) := by
  simp only [handle]
  -- Down the subtypes; what follows one is the answer to the right body, then to any other.
  repeat' split
  · exact .deviceInfo _
  · exact .ignored _
  · rename_i hsubtype _ reading hbody
    exact .battery hsubtype hbody
  · exact .ignored _
  · exact .install
  · exact .password _
  · exact .ignored _
  · exact .findPhone
  · exact .menu _
  · exact .ignored _
  · exact .vibration _
  · exact .ignored _
  · rename_i hsubtype _ state hbody
    exact .basicState hsubtype hbody
  · exact .stateless
  · rename_i hsubtype _ state hbody
    exact .deviceState hsubtype hbody
  · exact .stateless
  · exact .ignored _
  · exact .ignored _

end WatchLink.DeviceService
