import SmartHelmet.HelmetState

namespace SmartHelmet.Firmware

open MachineArith Config

def adcSources : List AdcSource := [.sensIn, .co, .nh3, .no2]

def requestPair (source : AdcSource) (h : Helmet) : Helmet :=
  (h.note (.adcRequest .vref)).note (.adcRequest source)

def shAdcRequestNextFull (h : Helmet) : Helmet :=
  match adcSources[h.adc.index]? with
  | none => { h with adc := { h.adc with mode := .idle } }
  | some source => requestPair source h

def shAdcStartSens (h : Helmet) : Helmet :=
  requestPair .sensIn { h with adc := { h.adc with mode := .sens, index := 0 } }

def adcInit (h : Helmet) : Helmet :=
  let h := { h with adc := { task := true } }
  Helmet.sendLater .adcSens (Helmet.sendLater .adcScan
    (Helmet.cancelAll .adcSens (h.cancelAll .adcScan)))

def adcStop (h : Helmet) : Helmet :=
  let h := if h.adc.task then Helmet.cancelAll .adcSens (h.cancelAll .adcScan) else h
  { h with adc := { h.adc with mode := .idle } }

def adcRequestScan (h : Helmet) : Helmet :=
  if h.adc.task ∧ h.adc.mode = .idle then
    shAdcRequestNextFull { h with adc := { h.adc with mode := .full, index := 0 } }
  else h

/-- A tick that finds the converter busy is dropped, not taken late. -/
def adcRequestSensIn (h : Helmet) : Helmet :=
  if ¬ h.adc.task then h
  else if h.adc.mode ≠ .idle then { h with vitals := Vitals.vitalsNoteSensDropped h.vitals }
  else shAdcStartSens h

def scaledMv (a : Adc) (reading : UInt16) : ℕ :=
  if a.vrefMv ≠ 0 then u32 (reading.toNat * 1200) / a.vrefMv else reading.toNat

def shAdcFeedVitalsSens (w : World) (e : Env) (mv : UInt16) (h : Helmet) : Helmet :=
  let v := Vitals.vitalsPushSensInMvAt w.build h.vitals mv e.timeUs
  { h with vitals := Vitals.vitalsOnSensSample w.build v }

def storeChannel (a : Adc) (mv : ℕ) : Adc :=
  match a.index with
  | 0 => { a with sensMv := mv }
  | 1 => { a with coMv := mv }
  | 2 => { a with nh3Mv := mv }
  | _ => { a with no2Mv := mv }

def adcResult (w : World) (e : Env) (source : AdcSource) (reading : UInt16) (h : Helmet) : Helmet :=
  if source = .vref then { h with adc := { h.adc with vrefMv := reading.toNat } }
  else if h.adc.mode = .sens then
    if source ≠ .sensIn then h
    else
      let mv := UInt16.ofNat (scaledMv h.adc reading)
      shAdcFeedVitalsSens w e mv { h with adc := { h.adc with sensMv := mv.toNat, mode := .idle } }
  else if h.adc.mode = .full ∧ adcSources[h.adc.index]? = some source then
    shAdcRequestNextFull { h with adc :=
      { storeChannel h.adc (u16 (scaledMv h.adc reading)) with index := h.adc.index + 1 } }
  else h

def adcScanTick (h : Helmet) : Helmet :=
  let h := adcRequestScan h
  if h.adc.task then h.sendLater .adcScan else h

def adcSensTick (h : Helmet) : Helmet :=
  let h := adcRequestSensIn h
  if h.adc.task then h.sendLater .adcSens else h

end SmartHelmet.Firmware
