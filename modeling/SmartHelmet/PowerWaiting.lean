import SmartHelmet.PowerCalls

namespace SmartHelmet.Power

open PowerManager

variable {τ : Type} [DecidableEq τ]

section Waiting

variable {p : PowerManager τ}

/-- The manager waits only while an answer is owed, and a shutdown round never rests half way. -/
structure Waits (p : PowerManager τ) : Prop where
  owed : ∀ k : Preparation, p.state = k.waiting → ∃ c ∈ p.clients, c.2 k.flag = true
  settled : p.state ≠ .terminatingClientsResponded
  user : p.state = .ok → p.userInitiatedShutdown = false

omit [DecidableEq τ] in
theorem waits_of_state {s : PowerState} (hstate : p.state = s) (hwait : ∀ k : Preparation, s ≠ k.waiting)
    (hresp : s ≠ .terminatingClientsResponded) (hok : s ≠ .ok) : Waits p :=
  ⟨fun k heq => absurd (hstate.symm.trans heq) (hwait k), hstate ▸ hresp, fun heq => absurd (hstate.symm.trans heq) hok⟩

omit [DecidableEq τ] in
theorem waits_enterOk (p : PowerManager τ) : Waits (enterOk p) :=
  ⟨fun k (heq : PowerState.ok = k.waiting) => absurd heq (by cases k <;> decide),
    fun heq => PowerState.noConfusion heq, fun _ => rfl⟩

omit [DecidableEq τ] in
theorem waits_enterResponded (e : PowerEnv) (k : Preparation) (p : PowerManager τ) :
    Waits (appPowerSetState e k.responded p) := by
  cases k with
  | shutdown => exact waits_enterOk _
  | sleep =>
    change Waits (enterSoporificClientsResponded e p)
    unfold enterSoporificClientsResponded
    dsimp only
    split
    · exact waits_of_state (s := .soporificClientsResponded) rfl (fun k => by cases k <;> decide) (by decide) (by decide)
    · exact waits_enterOk _

omit [DecidableEq τ] in
theorem waits_asked (k : Preparation) {l : List (τ × (Flag → Bool))} (hsome : l ≠ []) (hstate : p.state = k.waiting)
    (hclients : p.clients = l.map fun c => (c.1, Function.update c.2 k.flag true)) : Waits p := by
  refine ⟨fun j heq => ?_, ?_, fun heq => ?_⟩
  · have hk : j = k := by
      rw [hstate] at heq
      cases k <;> cases j <;> first | rfl | cases heq
    obtain ⟨c, hc⟩ := List.exists_mem_of_ne_nil l hsome
    rw [hclients, hk]
    exact ⟨_, List.mem_map_of_mem hc, Function.update_self ..⟩
  · rw [hstate]
    exact Preparation.waiting_ne_responded k .shutdown
  · rw [hstate] at heq
    cases k <;> cases heq

omit [DecidableEq τ] in
theorem waits_enterNotified (e : PowerEnv) (k : Preparation) (p : PowerManager τ) :
    Waits (appPowerSetState e k.waiting p) := by
  cases k with
  | shutdown =>
    change Waits (enterTerminatingClientsNotified e p)
    unfold enterTerminatingClientsNotified
    dsimp only
    split
    · exact waits_enterResponded e .shutdown _
    · rename_i hsome
      have hsends := state_sends (τ := τ) .shutdownPrepareInd { exitState p with state := .terminatingClientsNotified }
      have hlast := state_sends (τ := τ) .powerOff (appPowerSetFlagInAllClients .shutdownPrepareResponsePending
        (taskListMessageSendId .shutdownPrepareInd { exitState p with state := .terminatingClientsNotified }))
      refine waits_asked .shutdown (l := (exitState p).clients) ?_ (hlast.1.trans hsends.1) (hlast.2.1.trans ?_)
      · exact fun hnil => hsome (List.isEmpty_iff.mpr hnil)
      · unfold appPowerSetFlagInAllClients
        rw [hsends.2.1]
        rfl
  | sleep =>
    change Waits (enterSoporificClientsNotified e p)
    unfold enterSoporificClientsNotified
    dsimp only
    split
    · exact waits_enterResponded e .sleep _
    · rename_i hsome
      have hsends := state_sends (τ := τ) .sleepPrepareInd { exitState p with state := .soporificClientsNotified }
      refine waits_asked .sleep (l := (exitState p).clients) ?_ hsends.1 ?_
      · exact fun hnil => hsome (List.isEmpty_iff.mpr hnil)
      · unfold appPowerSetFlagInAllClients
        rw [hsends.2.1]
        rfl

omit [DecidableEq τ] in
theorem Waits.congr (h : Waits p) {p' : PowerManager τ} (hstate : p'.state = p.state) (hclients : p'.clients = p.clients)
    (huser : p'.userInitiatedShutdown = p.userInitiatedShutdown) : Waits p' := by
  refine ⟨fun k heq => ?_, ?_, fun heq => ?_⟩
  · rw [hclients]
    exact h.owed k (hstate.symm.trans heq)
  · rw [hstate]
    exact h.settled
  · rw [huser]
    exact h.user (hstate.symm.trans heq)

theorem Waits.putFlag (h : Waits p) (task : τ) {flag : Flag} (value : Bool) (hflag : ∀ k : Preparation, flag ≠ k.flag) :
    Waits (putFlagInClient task flag value p) := by
  refine ⟨fun k heq => ?_, h.settled, h.user⟩
  obtain ⟨c, hc, hset⟩ := h.owed k heq
  refine ⟨_, List.mem_map_of_mem hc, ?_⟩
  split
  · exact (Function.update_of_ne (hflag k).symm value c.2).trans hset
  · exact hset

omit [DecidableEq τ] in
theorem userInitiated_sends (m : ClientMessage) (p : PowerManager τ) :
    (taskListMessageSendId m p).userInitiatedShutdown = p.userInitiatedShutdown := by
  have hfold : ∀ (l : List (τ × (Flag → Bool))) (p : PowerManager τ),
      (l.foldl (fun p c => p.note (.send c.1 m)) p).userInitiatedShutdown = p.userInitiatedShutdown := by
    intro l
    induction l with
    | nil => exact fun p => rfl
    | cons c l ih => exact fun p => ih (p.note (.send c.1 m))
  exact hfold p.clients p

theorem waits_allowSleep (e : PowerEnv) (task : τ) (h : Waits p) : Waits (appPowerClientAllowSleep e task p) := by
  unfold appPowerClientAllowSleep
  dsimp only
  split
  · exact waits_enterNotified e .sleep _
  · exact h.putFlag task true fun k => by cases k <;> decide

theorem other_pending {task : τ} {flag : Flag} (htask : p.hasTask task = true)
    (hleft : ¬ appPowerAllClientsHaveFlagCleared flag (appPowerClearFlagInClient task flag p) = true) :
    ∃ c ∈ (appPowerClearFlagInClient task flag p).clients, c.1 ≠ task ∧ c.2 flag = true := by
  obtain ⟨c, hc, -⟩ := (hasTask_eq_true p).mp htask
  have hnonempty : (appPowerClearFlagInClient task flag p).clients.isEmpty = false := by
    refine Bool.eq_false_iff.mpr fun hnil => ?_
    have hmem := List.mem_map_of_mem (f := fun c : τ × (Flag → Bool) =>
      if c.1 = task then (c.1, Function.update c.2 flag false) else c) hc
    rw [show p.clients.map _ = (appPowerClearFlagInClient task flag p).clients from rfl,
      List.isEmpty_iff.mp hnil] at hmem
    exact absurd hmem List.not_mem_nil
  unfold appPowerAllClientsHaveFlagCleared at hleft
  rw [hnonempty, Bool.not_false, Bool.true_and, List.all_eq_true] at hleft
  push Not at hleft
  obtain ⟨c', hc', hflag⟩ := hleft
  have hset : c'.2 flag = true := by
    cases hv : c'.2 flag with
    | true => rfl
    | false =>
      rw [hv] at hflag
      exact absurd rfl hflag
  refine ⟨c', hc', fun heq => ?_, hset⟩
  obtain ⟨c'', _, rfl⟩ := List.mem_map.mp hc'
  split at hset
  · have hclear : Function.update c''.2 flag false flag = false := Function.update_self ..
    exact Bool.noConfusion (hclear.symm.trans hset)
  · rename_i hne
    rw [if_neg hne] at heq
    exact hne heq

theorem waits_respond (e : PowerEnv) (k : Preparation) (task : τ) (h : Waits p) :
    Waits (respond e k task p) ∧ ((respond e k task p).state = k.waiting →
      ∃ c ∈ (respond e k task p).clients, c.1 ≠ task ∧ c.2 k.flag = true) := by
  unfold respond prepareResponse
  dsimp only
  split
  · rename_i hcond
    split
    · have hmoved := waits_enterResponded e k (appPowerClearFlagInClient task k.flag p)
      refine ⟨hmoved, fun heq => ?_⟩
      exfalso
      cases k with
      | shutdown => cases heq
      | sleep =>
        change (enterSoporificClientsResponded e (appPowerClearFlagInClient task _ p)).state = _ at heq
        unfold enterSoporificClientsResponded at heq
        dsimp only at heq
        split at heq <;> cases heq
    · rename_i hleft
      have hex := other_pending hcond.2 hleft
      refine ⟨⟨fun j heq => ?_, h.settled, h.user⟩, fun _ => hex⟩
      have hk : j = k := by
        have heq' : k.waiting = j.waiting := hcond.1.symm.trans heq
        cases k <;> cases j <;> first | rfl | cases heq'
      obtain ⟨c, hc, _, hset⟩ := hex
      rw [hk]
      exact ⟨c, hc, hset⟩
  · rename_i hcond
    refine ⟨h, fun hstate => ?_⟩
    obtain ⟨c, hc, hset⟩ := h.owed k hstate
    refine ⟨c, hc, fun heq => hcond ⟨hstate, (hasTask_eq_true p).mpr ⟨c, hc, heq⟩⟩, hset⟩

omit [DecidableEq τ] in
theorem state_enterResponded (e : PowerEnv) (k j : Preparation) (p : PowerManager τ) :
    (appPowerSetState e k.responded p).state ≠ j.waiting := by
  cases k with
  | shutdown =>
    change PowerState.ok ≠ j.waiting
    cases j <;> decide
  | sleep =>
    change (enterSoporificClientsResponded e p).state ≠ j.waiting
    unfold enterSoporificClientsResponded
    dsimp only
    split
    · exact (Preparation.waiting_ne_responded j .sleep).symm
    · change PowerState.ok ≠ j.waiting
      cases j <;> decide

theorem respond_other (e : PowerEnv) {k j : Preparation} (hk : j ≠ k) (task : τ)
    (hstate : (respond e k task p).state = j.waiting) : respond e k task p = p := by
  unfold respond prepareResponse at hstate ⊢
  split at hstate
  · rename_i hcond
    dsimp only at hstate
    split at hstate
    · exact absurd hstate (state_enterResponded e k j _)
    · have heq : k.waiting = j.waiting := hcond.1.symm.trans hstate
      cases k <;> cases j <;> first | exact absurd rfl hk | cases heq
  · rename_i hcond
    rw [if_neg hcond]

theorem unregister_eq (e : PowerEnv) (task : τ) (p : PowerManager τ) : appPowerClientUnregister e task p =
    removeClient task (respond e .sleep task (respond e .shutdown task (appPowerClientAllowSleep e task p))) := by
  unfold appPowerClientUnregister appPowerSleepPrepareResponse appPowerShutdownPrepareResponse respond
  rfl

theorem waits_removeClient {task : τ} (h : Waits p)
    (howed : ∀ k : Preparation, p.state = k.waiting → ∃ c ∈ p.clients, c.1 ≠ task ∧ c.2 k.flag = true) :
    Waits (removeClient task p) := by
  refine ⟨fun k heq => ?_, h.settled, h.user⟩
  obtain ⟨c, hc, hne, hset⟩ := howed k heq
  exact ⟨c, List.mem_filter.mpr ⟨hc, decide_eq_true hne⟩, hset⟩

theorem waits_unregister (e : PowerEnv) (task : τ) (h : Waits p) : Waits (appPowerClientUnregister e task p) := by
  have hshutdown := waits_respond e .shutdown task (waits_allowSleep e task h)
  have hsleep := waits_respond e .sleep task hshutdown.1
  rw [unregister_eq]
  refine waits_removeClient hsleep.1 fun k heq => ?_
  cases k with
  | sleep => exact hsleep.2 heq
  | shutdown =>
    have hsame := respond_other e (k := .sleep) (j := .shutdown) (by decide) task heq
    rw [hsame] at heq ⊢
    exact hshutdown.2 heq

theorem waits_register (task : τ) (hroom : hasRoom p (.register task) = true) (h : Waits p) :
    Waits (appPowerClientRegister task p) := by
  have hgrow : Waits { p with clients := p.clients ++ [(task, fun _ => false)] } := by
    refine ⟨fun k heq => ?_, h.settled, h.user⟩
    obtain ⟨c, hc, hset⟩ := h.owed k heq
    exact ⟨c, List.mem_append_left _ hc, hset⟩
  have hset : ∀ k : Preparation, p.state = k.waiting →
      Waits (putFlagInClient task k.flag true { p with clients := p.clients ++ [(task, fun _ => false)] }) := by
    intro k hstate
    refine ⟨fun j heq => ?_, h.settled, h.user⟩
    have hk : j = k := by
      have heq' : k.waiting = j.waiting := hstate.symm.trans heq
      cases k <;> cases j <;> first | rfl | cases heq'
    rw [hk]
    refine ⟨_, List.mem_map_of_mem (List.mem_append_right _ (List.mem_singleton_self _)), ?_⟩
    rw [if_pos rfl]
    exact Function.update_self ..
  unfold appPowerClientRegister
  split
  · exact h
  · rename_i hnew
    have hfew : p.clients.length < taskListMaxTasks :=
      of_decide_eq_true ((Bool.or_eq_true_iff.mp hroom).resolve_left hnew)
    rw [if_neg (not_le.mpr hfew)]
    dsimp only
    split
    · exact hgrow.congr rfl rfl rfl
    · exact (hset .shutdown ‹_›).congr rfl rfl rfl
    · exact (hset .sleep ‹_›).congr rfl rfl rfl
    · exact hgrow
    · exact hgrow
    · exact hgrow

omit [DecidableEq τ] in
theorem waits_powerEvent (e : PowerEnv) (h : Waits p) : Waits (appPowerHandlePowerEvent e p) := by
  unfold appPowerHandlePowerEvent
  split
  · exact waits_enterOk _
  · split
    · exact waits_enterNotified e .shutdown p
    · split
      · exact waits_enterNotified e .sleep p
      · exact h
  · exact h

theorem waits_step (c : PowerEnv × Call τ) (hroom : hasRoom p c.2 = true) (h : Waits p) : Waits (powerStep p c) := by
  obtain ⟨e, c⟩ := c
  have hnoted : Waits (p.note (.called c)) := h.congr rfl rfl rfl
  cases c with
  | register task => exact waits_register task hroom hnoted
  | unregister task => exact waits_unregister e task hnoted
  | allowSleep task => exact waits_allowSleep e task hnoted
  | prohibitSleep task => exact hnoted.putFlag task false fun k => by cases k <;> decide
  | shutdownPrepareResponse task => exact (waits_respond e .shutdown task hnoted).1
  | sleepPrepareResponse task => exact (waits_respond e .sleep task hnoted).1
  | offRequest =>
    change Waits (appPowerOffRequest e _)
    unfold appPowerOffRequest
    split
    · exact waits_enterNotified e .shutdown _
    · exact hnoted
  | on =>
    obtain ⟨hstate, hclients, _⟩ := state_sends (τ := τ) .powerOn (p.note (.called .on))
    exact hnoted.congr hstate hclients (userInitiated_sends _ _)
  | initComplete => exact waits_powerEvent e (hnoted.congr rfl rfl rfl)
  | handlePowerEvent => exact waits_powerEvent e hnoted

theorem waits_powerRun {calls : List (PowerEnv × Call τ)} (hfits : fitsList appPowerInit calls = true) :
    Waits (powerRun calls) :=
  powerRun_rule (waits_of_state (s := .init) rfl (fun k => by cases k <;> decide) (by decide) (by decide))
    (fun _ c hroom h => waits_step c hroom h) hfits

end Waiting

section Results

/-- With at most 15 clients at a time, the chip is shut down or put to sleep only when every client
registered at that moment was asked to prepare and has answered; the one exception is a power-off
before initialisation. -/
theorem preparation_answered (calls : List (PowerEnv × Call τ)) (hfits : fitsList appPowerInit calls = true)
    (k : Preparation) (o : Entry τ) (post : List (Entry τ)) (htaken : k.taken o = true) (hsuffix : (o :: post) <:+ (powerRun calls).log) :
    Entry.initCfm ∉ post ∨ ∀ t, registered t post = true → dialogue k t post = .answered :=
  (tracks_powerRun k hfits).sound o post hsuffix htaken

def exampleEnv : PowerEnv := ⟨true, true, false, false⟩

def exampleCalls : List (PowerEnv × Call ℕ) :=
  [.handlePowerEvent, .register 1, .register 2, .offRequest, .shutdownPrepareResponse 1,
    .shutdownPrepareResponse 2].map (exampleEnv, ·)

theorem preparation_answered_example : Entry.initCfm ∉ (powerRun exampleCalls).log.drop 3 ∨
    ∀ t, registered t ((powerRun exampleCalls).log.drop 3) = true →
      dialogue .shutdown t ((powerRun exampleCalls).log.drop 3) = .answered :=
  preparation_answered exampleCalls (by decide) .shutdown .systemShutdown _ (by decide) ⟨(powerRun exampleCalls).log.take 2, by decide⟩

/-- With at most 15 clients at a time, the manager waits only for a registered client that was asked
and has not answered, never rests between the answers and the step, and outside the rounds owes no
client anything. -/
theorem power_waits (calls : List (PowerEnv × Call τ)) (hfits : fitsList appPowerInit calls = true) :
    (∀ k : Preparation, (powerRun calls).state = k.waiting →
      ∃ t, registered t (powerRun calls).log = true ∧ dialogue k t (powerRun calls).log = .asked) ∧
    (powerRun calls).state ≠ .terminatingClientsResponded ∧
    ((powerRun calls).state = .ok → (powerRun calls).userInitiatedShutdown = false ∧
      ∀ k : Preparation, ∀ t, dialogue k t (powerRun calls).log = .quiet) := by
  have hwaits := waits_powerRun hfits
  refine ⟨fun k hstate => ?_, hwaits.settled, fun hok => ⟨hwaits.user hok, fun k t => ?_⟩⟩
  · have htracks := tracks_powerRun k hfits
    obtain ⟨c, hc, hset⟩ := hwaits.owed k hstate
    refine ⟨c.1, (htracks.reg c.1).mpr ⟨nofun, (hasTask_eq_true _).mpr ⟨c, hc, rfl⟩⟩, ?_⟩
    rw [htracks.waiting hstate c hc nofun, if_pos hset]
  · refine (tracks_powerRun k hfits).resting ?_ ?_ t nofun
    · rw [hok]
      cases k <;> decide
    · rw [hok]
      cases k <;> decide

theorem power_waits_example : ∃ t, registered t (powerRun (exampleCalls.take 5)).log = true ∧
    dialogue .shutdown t (powerRun (exampleCalls.take 5)).log = .asked :=
  (power_waits (exampleCalls.take 5) (by decide)).1 .shutdown (by decide)

end Results

end SmartHelmet.Power
