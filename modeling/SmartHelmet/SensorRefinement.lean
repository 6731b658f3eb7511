import SmartHelmet.ReportStart
import SmartHelmet.SensorConfig

namespace SmartHelmet.I2c

open Firmware (Sensors Helmet)

/-- The calls of the hub with the devices' answers. -/
def abstractly (w : Firmware.World) (e : Firmware.Env) (ev : HubEvent) (h : Helmet) : Helmet :=
  match ev with
  | .busInit | .busClose => h
  | .sensorsInit => Firmware.sensorsInit e h
  | .verifyPass => Firmware.shSensorsVerifyPass e h
  | .sensorsSleep => Firmware.sensorsSleep h
  | .sensorsPoll => Firmware.sensorsPoll e h
  | .pollLis3dh => Firmware.sensorsPollLis3dh e h
  | .logSample =>
    match e.lis3dhLog with
    | none => h
    | some r => Firmware.logFeed w r.mg.1 r.mg.2.1 r.mg.2.2 h

section BringUp

variable (w : ℕ → Wire) (s : Hub)

theorem mark_found (device : Device) (x : Sensors) : device.mark (device.found x) x = x := by cases device <;> rfl

theorem bringUpDevice_sensors (device : Device) {probe init : Hub → Bool × Hub} (hprobe : (probe s).2.sensors = s.sensors)
    (hinit : (init (probe s).2).2.sensors = (probe s).2.sensors) :
    ∃ answer, (s.bringUpDevice device probe init).sensors = device.mark (device.found s.sensors || answer) s.sensors := by
  unfold Hub.bringUpDevice
  dsimp only
  split
  · rename_i hfound
    refine ⟨true, ?_⟩
    rw [hfound, Bool.true_or, ← hfound, mark_found]
  · rename_i hfound
    rw [Bool.eq_false_iff.mpr hfound]
    split
    · refine ⟨(init (probe s).2).1, ?_⟩
      change device.mark _ (init (probe s).2).2.sensors = _
      rw [hinit, hprobe, Bool.false_or]
    · refine ⟨false, ?_⟩
      rw [hprobe, Bool.false_or]
      exact (mark_found device s.sensors).symm.trans (by rw [Bool.eq_false_iff.mpr hfound])

def markMlx (ta : Option UInt16) (x : Sensors) : Sensors :=
  { x with
    mlx90614Ok := x.mlx90614Ok || (Firmware.shReadMlx90614 ta).isSome
    ambientTempX100 := if x.mlx90614Ok then x.ambientTempX100
      else (Firmware.shReadMlx90614 ta).getD x.ambientTempX100 }

theorem markMlx_found {x : Sensors} (hx : x.mlx90614Ok = true) (ta : Option UInt16) : markMlx ta x = x := by
  cases x
  cases hx
  rfl

theorem markMlx_missing {x : Sensors} (hx : x.mlx90614Ok = false) (ta : Option UInt16) : markMlx ta x =
    match Firmware.shReadMlx90614 ta with
    | some t => { x with mlx90614Ok := true, ambientTempX100 := t }
    | none => x := by
  cases x
  cases hx
  unfold markMlx
  cases Firmware.shReadMlx90614 ta <;> rfl

theorem bringUpMlx90614_sensors : ∃ ta, (s.bringUpMlx90614 w).sensors = markMlx ta s.sensors := by
  unfold Hub.bringUpMlx90614
  dsimp only
  split
  · rename_i hfound
    exact ⟨none, (markMlx_found hfound none).symm⟩
  · rename_i hfound
    exact ⟨(mlxRaw w 0x06 s).1, (markMlx_missing (Bool.eq_false_iff.mpr hfound) _).symm⟩

theorem bringUp_sensors (ssd : Bool) : ∃ ccs hdc lis ta, (s.bringUp w ssd).sensors =
    Firmware.probeMissing
      { ccs811Probe := ccs, hdc1080Probe := hdc, lis3dhProbe := lis, ssd1315Probe := ssd, mlxTa := ta } s.sensors := by
  obtain ⟨ccs, hccs⟩ := bringUpDevice_sensors s .ccs811
    (show (shProbeCcs811 w s).2.sensors = s.sensors from rfl) (frame_initCcs811 w _).sensors
  obtain ⟨hdc, hhdc⟩ := bringUpDevice_sensors (s.bringUpCcs811 w) .hdc1080
    (frame_probeHdc1080 w _).sensors (frame_initHdc1080 w _).sensors
  obtain ⟨lis, hlis⟩ := bringUpDevice_sensors ((s.bringUpCcs811 w).bringUpHdc1080 w) .lis3dh
    (show (shProbeLis3dh w _).2.sensors = _ from rfl) (frame_initLis3dh w _).sensors
  obtain ⟨ta, hta⟩ := bringUpMlx90614_sensors w (((s.bringUpCcs811 w).bringUpHdc1080 w).bringUpLis3dh w)
  refine ⟨ccs, hdc, lis, ta, ?_⟩
  change (s.bringUpCcs811 w).sensors = _ at hccs
  change ((s.bringUpCcs811 w).bringUpHdc1080 w).sensors = _ at hhdc
  change (((s.bringUpCcs811 w).bringUpHdc1080 w).bringUpLis3dh w).sensors = _ at hlis
  unfold Hub.bringUp Hub.bringUpSsd1315 Hub.setSensors
  dsimp only
  rw [hta, hlis, hhdc, hccs]
  rfl

end BringUp

section Polls

variable (w : ℕ → Wire) (s : Hub)

theorem pollCcs811_sensors : ∃ result, (s.pollCcs811 w).sensors = Firmware.pollCcs811 result s.sensors := by
  have hnone : s.sensors = Firmware.pollCcs811 none s.sensors := rfl
  unfold Hub.pollCcs811
  dsimp only
  split
  · rename_i hfound
    split
    · cases hread : (i2cReadReg w addrCcs811 0x02 4 (i2cReadReg w addrCcs811 0x00 1 s).2).1 with
      | none => exact ⟨none, rfl⟩
      | some rx => exact ⟨some (word rx 0, word rx 2), (if_pos hfound).symm⟩
    · exact ⟨none, rfl⟩
  · exact ⟨none, hnone⟩

theorem pollLis3dh_sensors : ∃ raw, (s.sensorsPollLis3dh w).sensors = Firmware.pollLis3dh raw s.sensors := by
  unfold Hub.sensorsPollLis3dh
  dsimp only
  split
  · rename_i hfound
    cases hread : (i2cReadReg w addrLis3dh 0xA8 6 s).1 with
    | none => exact ⟨none, rfl⟩
    | some rx => exact ⟨some (rawAccel rx), (if_pos hfound).symm⟩
  · exact ⟨none, rfl⟩

theorem pollHdc1080_sensors : ∃ sample, (s.pollHdc1080 w).sensors = Firmware.pollHdc1080 sample s.sensors := by
  unfold Hub.pollHdc1080
  dsimp only
  split
  · rename_i hfound
    split
    · exact ⟨none, rfl⟩
    · split
      · exact ⟨none, rfl⟩
      · rename_i rx _
        let sample := (i2cRead w addrHdc1080 4 (i2cRead w addrHdc1080 4 (i2cWrite w addrHdc1080 [0x00] s).2).2).1.getD rx
        exact ⟨some (word sample 0, word sample 2), (if_pos hfound).symm⟩
  · exact ⟨none, rfl⟩

theorem pollMlx90614_sensors : ∃ ta tobj1, (s.pollMlx90614 w).sensors = Firmware.pollMlx90614 ta tobj1 s.sensors := by
  unfold Hub.pollMlx90614 Firmware.pollMlx90614
  dsimp only
  split
  · exact ⟨_, _, rfl⟩
  · exact ⟨none, none, rfl⟩

theorem sensorsSleep_sensors : (s.sensorsSleep w).sensors =
    { s.sensors with ccs811Ok := false, lis3dhOk := false, hdc1080Ok := false, mlx90614Ok := false } := by
  have hccs : (s.sleepCcs811 w).sensors = { s.sensors with ccs811Ok := false } := by
    unfold Hub.sleepCcs811
    split
    · rfl
    · rename_i hfound
      exact (mark_found .ccs811 s.sensors).symm.trans (congrArg (Device.mark .ccs811 · s.sensors) (Bool.eq_false_iff.mpr hfound))
  have hlis : ∀ s : Hub, (s.sleepLis3dh w).sensors = { s.sensors with lis3dhOk := false } := by
    intro s
    unfold Hub.sleepLis3dh
    split
    · rfl
    · rename_i hfound
      exact (mark_found .lis3dh s.sensors).symm.trans (congrArg (Device.mark .lis3dh · s.sensors) (Bool.eq_false_iff.mpr hfound))
  unfold Hub.sensorsSleep Hub.setSensors
  dsimp only
  rw [hlis, hccs]

end Polls

theorem verifyPass_sensors (e : Firmware.Env) (h : Helmet) : (Firmware.shSensorsVerifyPass e h).sensors =
    Firmware.probeMissing e { h.sensors with probeTry := MachineArith.u16 (h.sensors.probeTry + 1) } := by
  unfold Firmware.shSensorsVerifyPass
  dsimp only
  split
  · split <;> rfl
  · unfold Firmware.shSensorsScheduleRetry
    split <;> rfl

theorem abstractly_hubStep (s : Hub) (ev : HubEnv × HubEvent) : ∃ e, ∀ (world : Firmware.World) (h : Helmet),
    h.sensors = s.sensors → (abstractly world e ev.2 h).sensors = (hubStep s ev).sensors := by
  obtain ⟨env, ev⟩ := ev
  cases ev with
  | busInit | busClose => exact ⟨{}, fun _ _ hh => hh⟩
  | sensorsInit =>
    obtain ⟨ccs, hdc, lis, ta, hsensors⟩ := bringUp_sensors env.wire (s.setSensors fun x => { x with
      ccs811Ok := false, hdc1080Ok := false, lis3dhOk := false, mlx90614Ok := false, ssd1315Ok := false, probeTry := 0 }) env.ssd
    refine ⟨{ ccs811Probe := ccs, hdc1080Probe := hdc, lis3dhProbe := lis, ssd1315Probe := env.ssd, mlxTa := ta },
      fun _ h hh => Eq.trans ?_ hsensors.symm⟩
    unfold abstractly Firmware.sensorsInit
    dsimp only
    rw [hh]
    rfl
  | verifyPass =>
    obtain ⟨ccs, hdc, lis, ta, hsensors⟩ := bringUp_sensors env.wire
      (s.setSensors fun x => { x with probeTry := MachineArith.u16 (x.probeTry + 1) }) env.ssd
    refine ⟨{ ccs811Probe := ccs, hdc1080Probe := hdc, lis3dhProbe := lis, ssd1315Probe := env.ssd, mlxTa := ta },
      fun _ h hh => Eq.trans (verifyPass_sensors _ h) (Eq.trans ?_ hsensors.symm)⟩
    rw [hh]
    rfl
  | sensorsSleep =>
    refine ⟨{}, fun _ h hh => Eq.trans ?_ (sensorsSleep_sensors env.wire s).symm⟩
    unfold abstractly Firmware.sensorsSleep
    dsimp only
    rw [hh]
  | sensorsPoll =>
    obtain ⟨result, hccs⟩ := pollCcs811_sensors env.wire s
    obtain ⟨raw, hlis⟩ := pollLis3dh_sensors env.wire (s.pollCcs811 env.wire)
    obtain ⟨sample, hhdc⟩ := pollHdc1080_sensors env.wire ((s.pollCcs811 env.wire).sensorsPollLis3dh env.wire)
    obtain ⟨ta, tobj1, hmlx⟩ := pollMlx90614_sensors env.wire
      (((s.pollCcs811 env.wire).sensorsPollLis3dh env.wire).pollHdc1080 env.wire)
    refine ⟨{ ccs811Result := result, lis3dhPoll := raw, hdc1080Sample := sample, mlxTa := ta, mlxTobj1 := tobj1 },
      fun _ h hh => ?_⟩
    change _ = (s.sensorsPoll env.wire).sensors
    unfold Hub.sensorsPoll abstractly Firmware.sensorsPoll
    dsimp only
    rw [hmlx, hhdc, hlis, hccs, hh]
  | pollLis3dh =>
    obtain ⟨raw, hlis⟩ := pollLis3dh_sensors env.wire s
    refine ⟨{ lis3dhPoll := raw }, fun _ h hh => Eq.trans ?_ hlis.symm⟩
    unfold abstractly Firmware.sensorsPollLis3dh
    dsimp only
    rw [hh]
  | logSample =>
    cases hread : (i2cReadReg env.wire addrLis3dh 0xA8 6 (i2cReadReg env.wire addrLis3dh 0x0F 1 s).2).1 with
    | none =>
      refine ⟨{}, fun _ h hh => hh.trans ?_⟩
      change _ = (s.shLis3dhLogSample env.wire).sensors
      unfold Hub.shLis3dhLogSample Hub.setSensors
      dsimp only
      rw [hread]
      rfl
    | some rx =>
      refine ⟨{ lis3dhLog := some (rawAccel rx) }, fun _ h hh => ?_⟩
      change _ = (s.shLis3dhLogSample env.wire).sensors
      unfold Hub.shLis3dhLogSample Hub.setSensors
      dsimp only
      rw [hread]
      change { h.sensors with x := (rawAccel rx).mg.1, y := (rawAccel rx).mg.2.1, z := (rawAccel rx).mg.2.2 } = _
      rw [hh]
      rfl

theorem abstractly_run (evs : List (HubEnv × HubEvent)) (s : Hub) : ∃ envs : List Firmware.Env, envs.length = evs.length ∧
    ∀ (world : Firmware.World) (h : Helmet), h.sensors = s.sensors → ∀ n,
      (((envs.zip evs).take n).foldl (fun h p => abstractly world p.1 p.2.2 h) h).sensors =
        ((evs.take n).foldl hubStep s).sensors := by
  induction evs generalizing s with
  | nil =>
    refine ⟨[], rfl, fun _ h hh n => ?_⟩
    rw [List.zip_nil_left, List.take_nil, List.take_nil]
    exact hh
  | cons ev evs ih =>
    obtain ⟨e, he⟩ := abstractly_hubStep s ev
    obtain ⟨envs, hlen, henvs⟩ := ih (hubStep s ev)
    refine ⟨e :: envs, by rw [List.length_cons, List.length_cons, hlen], fun world h hh n => ?_⟩
    cases n with
    | zero => exact hh
    | succ n => exact henvs world (abstractly world e ev.2 h) (he world h hh) n

/-- In every run of the drivers over any wire, there are answers of the devices with which the
firmware's own calls have the readings and the flags of the drivers at every point of the run. -/
theorem drivers_refine_readings (evs : List (HubEnv × HubEvent)) : ∃ envs : List Firmware.Env, envs.length = evs.length ∧
    ∀ (world : Firmware.World) (n : ℕ),
      (((envs.zip evs).take n).foldl (fun h p => abstractly world p.1 p.2.2 h) Helmet.boot).sensors =
        (hubRun (evs.take n)).sensors := by
  obtain ⟨envs, hlen, henvs⟩ := abstractly_run evs Hub.boot
  exact ⟨envs, hlen, fun world n => henvs world Helmet.boot rfl n⟩

end SmartHelmet.I2c
