import SmartHelmet.LineDetector
import SmartHelmet.ModuleTask

namespace SmartHelmet.Firmware

abbrev Chunks : Type := List (Env × List UInt8)

def consumes (w : World) (h : Helmet) (cs : Chunks) : Helmet :=
  cs.foldl (fun h c => shUartConsume w c.1 h c.2) h

/-- A way to cut the stream `s`: no chunk is empty, and its size is a `uint16`. -/
structure Splits (s : List UInt8) (cs : Chunks) : Prop where
  whole : (cs.map Prod.snd).flatten = s
  sized : ∀ c ∈ cs, c.2 ≠ [] ∧ c.2.length ≤ 65535

structure KeywordFree (s : List UInt8) : Prop where
  sendOk : shContainsFold s "send ok" = false
  sendFail : shContainsFold s "send fail" = false
  restart : shContainsFold s "RESTART_SENSOR" = false

theorem KeywordFree.part {part s : List UInt8} (hs : KeywordFree s) (hpart : part <:+: s) :
    KeywordFree part := by
  have habsent {needle : String} (hne : bytes needle ≠ []) (h : shContainsFold s needle = false) :
      shContainsFold part needle = false := by
    rw [Bool.eq_false_iff] at h ⊢
    exact fun hcontra => h (shContainsFold_of_part hne hpart hcontra)
  exact ⟨habsent (by decide) hs.sendOk, habsent (by decide) hs.sendFail, habsent (by decide) hs.restart⟩

section Raw

variable (w : World) (e : Env) (h : Helmet)

theorem noteModule_online (data : List UInt8) (l : Link) : (noteModule data l).online = l.wisun.online := by
  have hnoted (s : WisunStatus) (hs : s.online = l.wisun.online) :
      (if l.step = .cmd ∧ shIpv6Like data = true then { s with ipSeen := true } else s).online =
        l.wisun.online := by
    split <;> exact hs
  unfold noteModule
  apply hnoted
  split
  · exact online_shNoteStatus _ data
  · rfl

theorem lineState_noteModule (data : List UInt8) :
    lineState { h with link := { h.link with wisun := noteModule data h.link } } = lineState h := by
  unfold lineState outcome
  rw [noteModule_online]

theorem lineState_armAfterRx : lineState (armAfterRx h) = lineState h := by
  have hbanner : lineState (shResetNoteBanner h) = lineState h := by
    unfold shResetNoteBanner
    dsimp only
    split
    · rw [lineState_shWisunArm]
      rfl
    · rfl
  unfold armAfterRx
  split
  · dsimp only
    split
    · exact hbanner
    · rw [lineState_shWisunArm]
      exact hbanner
  · split
    · exact lineState_shWisunArm h
    · rfl

theorem lineState_shUartConsume (chunk : List UInt8) :
    ∃ asm, lineState (shUartConsume w e h chunk) = chunk.foldl LineState.push
      (lineState (shWisunNoteRx w e chunk { h with link := { h.link with rxAsm := asm } })) := by
  refine ⟨h.link.rxAsm ++ chunk.take (rxBufSize - h.link.rxAsm.length), ?_⟩
  rw [shUartConsume]
  dsimp only
  rw [lineState_armAfterRx, lineState_shRxLinePush]

theorem lineState_shWisunNoteRx {chunk : List UInt8} (hfree : KeywordFree chunk) :
    lineState (shWisunNoteRx w e chunk h) = lineState h := by
  unfold shWisunNoteRx
  rw [hfree.sendOk, hfree.sendFail, hfree.restart]
  split
  · rfl
  · exact lineState_noteModule h chunk

theorem lineState_shUartConsume_of_free {chunk : List UInt8} (hfree : KeywordFree chunk) :
    lineState (shUartConsume w e h chunk) = chunk.foldl LineState.push (lineState h) := by
  obtain ⟨asm, hconsume⟩ := lineState_shUartConsume w e h chunk
  rw [hconsume, lineState_shWisunNoteRx w e _ hfree]
  rfl

end Raw

theorem lineState_consumes (w : World) (cs : Chunks) :
    ∀ h : Helmet, (∀ c ∈ cs, KeywordFree c.2) →
      lineState (consumes w h cs) = (cs.map Prod.snd).flatten.foldl LineState.push (lineState h) := by
  induction cs with
  | nil => exact fun h _ => rfl
  | cons c cs ih =>
    intro h hfree
    have hrest := ih (shUartConsume w c.1 h c.2) (fun c hc => hfree c (List.mem_cons_of_mem _ hc))
    rw [lineState_shUartConsume_of_free w c.1 h (hfree c List.mem_cons_self)] at hrest
    rw [List.map_cons, List.flatten_cons, List.foldl_append]
    exact hrest

theorem exists_keyword {s : List UInt8} {needle : String} (hne : bytes needle ≠ [])
    (h : shContainsFold s needle = true) :
    ∃ pre key post, s = pre ++ key ++ post ∧ key.map foldByte = (bytes needle).map foldByte := by
  obtain ⟨a, b, hab⟩ := (shContainsFold_iff hne s).mp h
  obtain ⟨front, post, rfl, hfront, _⟩ := List.map_eq_append_iff.mp hab.symm
  obtain ⟨pre, key, rfl, _, hkey⟩ := List.map_eq_append_iff.mp hfront
  exact ⟨pre, key, post, rfl, hkey⟩

theorem shContainsFold_congr {s t : List UInt8} {needle : String} (hne : bytes needle ≠ [])
    (h : s.map foldByte = t.map foldByte) : shContainsFold s needle = shContainsFold t needle := by
  rw [Bool.eq_iff_iff, shContainsFold_iff hne, shContainsFold_iff hne, h]

def singles (e : Env) (s : List UInt8) : Chunks := s.map (fun b => (e, [b]))

theorem singles_flatten (e : Env) (s : List UInt8) : ((singles e s).map Prod.snd).flatten = s := by
  induction s with
  | nil => rfl
  | cons b s ih =>
    rw [singles, List.map_cons, List.map_cons, List.flatten_cons, List.singleton_append]
    exact congrArg (List.cons b) ih

theorem singles_sized (e : Env) (s : List UInt8) :
    ∀ c ∈ singles e s, c.2 ≠ [] ∧ c.2.length ≤ 65535 := by
  intro c hc
  obtain ⟨b, _, rfl⟩ := List.mem_map.mp hc
  exact ⟨by simp, by simp⟩

theorem shContainsFold_single (b : UInt8) {needle : String} (hlong : 2 ≤ (bytes needle).length) :
    shContainsFold [b] needle = false := by
  have hne : bytes needle ≠ [] := List.ne_nil_of_length_pos (by omega)
  rw [Bool.eq_false_iff, Ne, shContainsFold_iff hne]
  intro hinfix
  have := hinfix.length_le
  simp only [List.length_map, List.length_cons, List.length_nil] at this
  omega

theorem singles_free (e : Env) (s : List UInt8) : ∀ c ∈ singles e s, KeywordFree c.2 := by
  intro c hc
  obtain ⟨b, _, rfl⟩ := List.mem_map.mp hc
  exact ⟨shContainsFold_single b (by decide), shContainsFold_single b (by decide),
    shContainsFold_single b (by decide)⟩

def around (e : Env) (pre key post : List UInt8) : Chunks := singles e pre ++ (e, key) :: singles e post

theorem around_splits (e : Env) {pre key post : List UInt8} (hne : key ≠ []) (hsize : key.length ≤ 65535) :
    Splits (pre ++ key ++ post) (around e pre key post) where
  whole := by
    rw [around, List.map_append, List.flatten_append, singles_flatten, List.map_cons, List.flatten_cons,
      singles_flatten, List.append_assoc]
  sized := by
    intro c hc
    rcases List.mem_append.mp hc with hc | hc
    · exact singles_sized e pre c hc
    · rcases List.mem_cons.mp hc with rfl | hc
      · exact ⟨hne, hsize⟩
      · exact singles_sized e post c hc

theorem singles_splits (e : Env) (s : List UInt8) : Splits s (singles e s) :=
  ⟨singles_flatten e s, singles_sized e s⟩

end SmartHelmet.Firmware
