import SmartHelmet.ChunkSplits
import SmartHelmet.LinkFrame

namespace SmartHelmet.Firmware

section Keyword

variable (w : World) (e : Env) (h : Helmet) {pre key post : List UInt8}

theorem consumes_around (pre key post : List UInt8) :
    ∃ h₁, lineState h₁ = pre.foldl LineState.push (lineState h) ∧
      lineState (consumes w h (around e pre key post)) =
        post.foldl LineState.push (lineState (shUartConsume w e h₁ key)) := by
  refine ⟨consumes w h (singles e pre), ?_, ?_⟩
  · rw [lineState_consumes w _ h (singles_free e pre), singles_flatten]
  · rw [around, consumes, List.foldl_append, List.foldl_cons]
    have hpost := lineState_consumes w (singles e post) (shUartConsume w e (consumes w h (singles e pre)) key)
      (singles_free e post)
    rw [singles_flatten] at hpost
    exact hpost

theorem online_singles (s : List UInt8) :
    (outcome (consumes w h (singles e s))).online = h.link.wisun.online := by
  have hlines := lineState_consumes w (singles e s) h (singles_free e s)
  have honline := congrArg (fun c : LineState => c.outcome.online) hlines
  rw [LineState.foldl_push_online] at honline
  exact honline

theorem online_shUartConsume (h : Helmet) (chunk : List UInt8) :
    ∃ asm, (shUartConsume w e h chunk).link.wisun.online =
      (shWisunNoteRx w e chunk { h with link := { h.link with rxAsm := asm } }).link.wisun.online := by
  obtain ⟨asm, hconsume⟩ := lineState_shUartConsume w e h chunk
  have honline := congrArg (fun c : LineState => c.outcome.online) hconsume
  rw [LineState.foldl_push_online] at honline
  exact ⟨asm, honline⟩

theorem online_around {result : Bool}
    (hkey : ∀ h : Helmet, (shWisunNoteRx w e key h).link.wisun.online = result) :
    (outcome (consumes w h (around e pre key post))).online = result := by
  obtain ⟨h₁, _, haround⟩ := consumes_around w e h pre key post
  have honline := congrArg (fun c : LineState => c.outcome.online) haround
  rw [LineState.foldl_push_online] at honline
  obtain ⟨asm, hconsume⟩ := online_shUartConsume w e h₁ key
  exact honline.trans (hconsume.trans (hkey _))

theorem online_noteRx_ok (h : Helmet) (hne : key ≠ []) (hok : shContainsFold key "send ok" = true)
    (hfail : shContainsFold key "send fail" = false) :
    (shWisunNoteRx w e key h).link.wisun.online = true := by
  have hnote (h : Helmet) : (noteSendOk h).link.wisun.online = true := by
    unfold noteSendOk
    dsimp only
    split <;> split <;> rfl
  unfold shWisunNoteRx
  rw [if_neg hne, hok, hfail]
  dsimp only
  split <;> exact hnote _

theorem online_dropOnline (h : Helmet) : (dropOnline h).link.wisun.online = false := by
  unfold dropOnline
  dsimp only
  split <;> rfl

theorem online_uartRejoin (h : Helmet) (hoff : h.link.wisun.online = false) :
    (uartRejoin w e h).link.wisun.online = false := by
  unfold uartRejoin
  split
  · exact hoff
  · split
    · exact hoff
    · dsimp only
      rw [leavePassthrough, link_shWisunArm]
      exact online_dropOnline _

theorem online_noteRx_fail (h : Helmet) (hne : key ≠ []) (hfail : shContainsFold key "send fail" = true) :
    (shWisunNoteRx w e key h).link.wisun.online = false := by
  have hnote (h : Helmet) : (noteSendFail w e h).link.wisun.online = false :=
    online_uartRejoin w e _ (online_dropOnline h)
  unfold shWisunNoteRx
  rw [if_neg hne, hfail]
  dsimp only
  split <;> exact hnote _

theorem lineState_noteRx_restart (h : Helmet) (hne : key ≠ []) (hok : shContainsFold key "send ok" = false)
    (hfail : shContainsFold key "send fail" = false)
    (hrestart : shContainsFold key "RESTART_SENSOR" = true) :
    lineState (shWisunNoteRx w e key h) = (lineState h).restart := by
  unfold shWisunNoteRx
  rw [if_neg hne, hok, hfail, hrestart]
  exact congrArg LineState.restart (lineState_noteModule h key)

end Keyword

/-- The outcome of the stream is the same however it is cut, from every reachable state in which
the UART is open. -/
def SplitInvariant (s : List UInt8) : Prop :=
  ∀ (w : World) (events : List (Env × Event)) (cs cs' : Chunks),
    (runHelmet w events).link.opened = true → Splits s cs → Splits s cs' →
      outcome (consumes w (runHelmet w events) cs) = outcome (consumes w (runHelmet w events) cs')

theorem splitInvariant_of_free {s : List UInt8} (hfree : KeywordFree s) : SplitInvariant s := by
  intro w events cs cs' _ hcs hcs'
  have hline (ds : Chunks) (hds : Splits s ds) : lineState (consumes w (runHelmet w events) ds) =
      s.foldl LineState.push (lineState (runHelmet w events)) := by
    have hparts : ∀ c ∈ ds, KeywordFree c.2 := by
      intro c hc
      apply hfree.part
      rw [← hds.whole]
      exact List.infix_of_mem_flatten (List.mem_map_of_mem hc)
    rw [lineState_consumes w ds _ hparts, hds.whole]
  exact congrArg LineState.outcome ((hline cs hcs).trans (hline cs' hcs').symm)

theorem keyword_sized {key : List UInt8} {needle : String} (hlen : 0 < (bytes needle).length)
    (hmax : (bytes needle).length ≤ 65535) (hkey : key.map foldByte = (bytes needle).map foldByte) :
    key ≠ [] ∧ key.length ≤ 65535 := by
  have hlength := congrArg List.length hkey
  simp only [List.length_map] at hlength
  exact ⟨List.ne_nil_of_length_pos (by omega), by omega⟩

theorem SplitInvariant.around {s pre key post : List UInt8} (hinv : SplitInvariant s)
    (hs : s = pre ++ key ++ post) (hsize : key ≠ [] ∧ key.length ≤ 65535) {events : List (Env × Event)}
    (hopen : (runHelmet plainWorld events).link.opened = true) :
    outcome (consumes plainWorld (runHelmet plainWorld events) (around plainEnv pre key post)) =
      outcome (consumes plainWorld (runHelmet plainWorld events) (singles plainEnv s)) := by
  apply hinv plainWorld events _ _ hopen _ (singles_splits plainEnv s)
  rw [hs]
  exact around_splits plainEnv hsize.1 hsize.2

theorem poweredRun_opened : (runHelmet plainWorld poweredRun).link.opened = true := by
  decide

theorem SplitInvariant.sendOk {s : List UInt8} (hinv : SplitInvariant s) :
    shContainsFold s "send ok" = false := by
  rw [Bool.eq_false_iff]
  intro hcontains
  obtain ⟨pre, key, post, hs, hkey⟩ := exists_keyword (by decide) hcontains
  have hsize := keyword_sized (by decide) (by decide) hkey
  have honline := congrArg LinkOutcome.online (hinv.around hs hsize poweredRun_opened)
  have hok : shContainsFold key "send ok" = true := by
    rw [shContainsFold_congr (by decide) hkey]
    decide
  have hfail : shContainsFold key "send fail" = false := by
    rw [shContainsFold_congr (by decide) hkey]
    decide
  rw [online_singles, online_around plainWorld plainEnv _
    (fun h => online_noteRx_ok plainWorld plainEnv h hsize.1 hok hfail)] at honline
  exact absurd honline (by decide)

def onlineRun : List (Env × Event) := poweredRun ++ [(plainEnv, .moreData [bytes "send ok\r\n"])]

theorem onlineRun_opened : (runHelmet plainWorld onlineRun).link.opened = true := by
  decide

theorem SplitInvariant.sendFail {s : List UInt8} (hinv : SplitInvariant s) :
    shContainsFold s "send fail" = false := by
  rw [Bool.eq_false_iff]
  intro hcontains
  obtain ⟨pre, key, post, hs, hkey⟩ := exists_keyword (by decide) hcontains
  have hsize := keyword_sized (by decide) (by decide) hkey
  have honline := congrArg LinkOutcome.online (hinv.around hs hsize onlineRun_opened)
  have hfail : shContainsFold key "send fail" = true := by
    rw [shContainsFold_congr (by decide) hkey]
    decide
  rw [online_singles, online_around plainWorld plainEnv _
    (fun h => online_noteRx_fail plainWorld plainEnv h hsize.1 hfail)] at honline
  exact absurd honline (by decide)

theorem SplitInvariant.restart {s : List UInt8} (hinv : SplitInvariant s) :
    shContainsFold s "RESTART_SENSOR" = false := by
  rw [Bool.eq_false_iff]
  intro hcontains
  obtain ⟨pre, key, post, hs, hkey⟩ := exists_keyword (by decide) hcontains
  have hsize := keyword_sized (by decide) (by decide) hkey
  have hcount := congrArg LinkOutcome.restarts (hinv.around hs hsize poweredRun_opened)
  have hword (needle : String) (hne : bytes needle ≠ []) :
      shContainsFold key needle = shContainsFold (bytes "RESTART_SENSOR") needle :=
    shContainsFold_congr hne hkey
  -- The chunk restarts once more than the lines do, and the lines go on as they would.
  obtain ⟨h₁, hpre, haround⟩ := consumes_around plainWorld plainEnv (runHelmet plainWorld poweredRun) pre key post
  obtain ⟨asm, hconsume⟩ := lineState_shUartConsume plainWorld plainEnv h₁ key
  rw [lineState_noteRx_restart plainWorld plainEnv _ hsize.1 ((hword _ (by decide)).trans (by decide))
    ((hword _ (by decide)).trans (by decide)) ((hword _ (by decide)).trans (by decide))] at hconsume
  have hline : lineState { h₁ with link := { h₁.link with rxAsm := asm } } = lineState h₁ := rfl
  rw [hline, hpre] at hconsume
  rw [hconsume, LineState.foldl_push_restart, LineState.foldl_push_restart, ← List.foldl_append,
    ← List.foldl_append, ← List.append_assoc, ← hs] at haround
  have hsingle := lineState_consumes plainWorld (singles plainEnv s) (runHelmet plainWorld poweredRun)
    (singles_free plainEnv s)
  rw [singles_flatten] at hsingle
  rw [← hsingle] at haround
  have hmore := congrArg (fun c : LineState => c.outcome.restarts) haround
  exact absurd (hmore.symm.trans hcount) (Nat.succ_ne_self _)

theorem splitInvariant_iff (s : List UInt8) : SplitInvariant s ↔ KeywordFree s :=
  ⟨fun hinv => ⟨hinv.sendOk, hinv.sendFail, hinv.restart⟩, splitInvariant_of_free⟩

theorem sendOk_missed_when_split :
    ¬ ∀ s : List UInt8, SplitInvariant s := by
  intro h
  have hcut : Splits (bytes "send ok\r\n") [(plainEnv, bytes "send "), (plainEnv, bytes "ok\r\n")] :=
    ⟨by decide, by decide⟩
  have hwhole : Splits (bytes "send ok\r\n") [(plainEnv, bytes "send ok\r\n")] := ⟨by decide, by decide⟩
  have heq := congrArg LinkOutcome.online (h _ plainWorld poweredRun _ _ poweredRun_opened hwhole hcut)
  exact absurd heq (by decide)

end SmartHelmet.Firmware
