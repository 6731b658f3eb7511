import SmartHelmet.PowerDialogue

namespace SmartHelmet.Power

open PowerManager

variable {τ : Type} [DecidableEq τ]

section Calls

variable {k : Preparation} {p : PowerManager τ}

theorem neutral_called {c : Call τ} (hreg : ∀ t, c ≠ .register t) (hun : ∀ t, c ≠ .unregister t)
    (hresp : ∀ t, c ≠ k.response t) : Neutral k (.called c) := by
  intro log t
  refine ⟨?_, ?_⟩
  · rw [dialogue, if_neg (hun t), if_neg fun h => hresp t h.1]
  · rw [registered, if_neg (hreg t), if_neg (hun t)]

theorem taken_called (k : Preparation) (c : Call τ) : k.taken (.called c) = false := by
  cases k <;> rfl

theorem Tracks.called {u : Option τ} (h : Tracks k u p) {c : Call τ} (hneutral : Neutral k (.called c)) :
    Tracks k u (p.note (.called c)) := by
  refine h.note hneutral (fun _ heq => by cases heq) fun htaken => ?_
  rw [taken_called] at htaken
  exact absurd htaken Bool.false_ne_true

theorem dialogue_response (k : Preparation) (task t : τ) (log : List (Entry τ)) :
    dialogue k t (.called (k.response task) :: log) =
      if task = t ∧ dialogue k t log = .asked then .answered else dialogue k t log := by
  have hun : k.response task ≠ .unregister t := by cases k <;> exact fun h => by cases h
  have hiff : k.response task = k.response t ↔ task = t := by
    cases k <;> simp [Preparation.response]
  rw [dialogue, if_neg hun]
  simp only [hiff]

theorem registered_response (k : Preparation) (task t : τ) (log : List (Entry τ)) :
    registered t (.called (k.response task) :: log) = registered t log := by
  cases k <;> rfl

theorem Tracks.unanswered (h : Tracks k none p) {task : τ} (hnot : ¬(p.state = k.waiting ∧ p.hasTask task = true)) :
    Tracks k none (p.note (.called (k.response task))) := by
  have hsame : ∀ t, dialogue k t p.log ≠ .asked ∨ task ≠ t →
      dialogue k t (.called (k.response task) :: p.log) = dialogue k t p.log := by
    intro t ht
    rw [dialogue_response, if_neg]
    rintro ⟨heq, hasked⟩
    obtain hne | hne := ht
    · exact hne hasked
    · exact hne heq
  constructor
  · intro t
    exact (Iff.of_eq (congrArg (· = true) (registered_response k task t p.log))).trans (h.reg t)
  · intro t hu ht
    have hreg : registered t p.log = false := (registered_response k task t p.log).symm.trans ht
    have hquiet := h.silent t hu hreg
    refine (hsame t (.inl ?_)).trans hquiet
    rw [hquiet]
    decide
  · intro hstate c hc hu
    refine (hsame c.1 (.inr fun heq => hnot ⟨hstate, ?_⟩)).trans (h.waiting hstate c hc hu)
    exact (hasTask_eq_true p).mpr ⟨c, hc, heq.symm⟩
  · intro hwait hresp t hu
    have hquiet := h.resting hwait hresp t hu
    refine (hsame t (.inl ?_)).trans hquiet
    rw [hquiet]
    decide
  · intro hinit hmem
    obtain heq | hmem := List.mem_cons.mp hmem
    · cases heq
    · exact h.start hinit hmem
  · refine h.sound.cons fun htaken => ?_
    rw [taken_called] at htaken
    exact absurd htaken Bool.false_ne_true

theorem Tracks.answer (h : Tracks k none p) {task : τ} (hstate : p.state = k.waiting) :
    Tracks k none (putFlagInClient task k.flag false (p.note (.called (k.response task)))) := by
  have htask : ∀ t, hasTask t (putFlagInClient task k.flag false (p.note (.called (k.response task)))) = p.hasTask t := by
    intro t
    unfold hasTask putFlagInClient
    rw [List.any_map]
    congr 1
    funext c
    rw [Function.comp_apply]
    split <;> rfl
  have hd := fun t => dialogue_response k task t p.log
  have hr := fun t => registered_response k task t p.log
  constructor
  · intro t
    rw [htask]
    exact (Iff.of_eq (congrArg (· = true) (hr t))).trans (h.reg t)
  · intro t hu ht
    have hquiet := h.silent t hu ((hr t).symm.trans ht)
    refine (hd t).trans ?_
    rw [hquiet]
    exact if_neg fun h => absurd h.2 (by decide)
  · intro _ c hc hu
    obtain ⟨c', hc', rfl⟩ := List.mem_map.mp hc
    have hold := h.waiting hstate c' hc'
    by_cases heq : c'.1 = task
    · rw [if_pos heq] at hu ⊢
      refine (hd c'.1).trans ?_
      have hclear : Function.update c'.2 k.flag false k.flag = false := Function.update_self ..
      simp only [hclear]
      rw [hold hu]
      cases c'.2 k.flag with
      | true => exact if_pos ⟨heq.symm, rfl⟩
      | false => exact if_neg fun h => absurd h.2 (by decide)
    · rw [if_neg heq] at hu ⊢
      refine (hd c'.1).trans ?_
      rw [if_neg fun h => heq h.1.symm]
      exact hold hu
  · intro hw _ _ _
    exact absurd hstate hw
  · intro hinit
    exact absurd (hstate.symm.trans hinit) (by cases k <;> decide)
  · refine h.sound.cons fun htaken => ?_
    rw [taken_called] at htaken
    exact absurd htaken Bool.false_ne_true

theorem allAnswered_of_cleared {u : Option τ} (h : Tracks k u p) (hstate : p.state = k.waiting)
    (hcleared : appPowerAllClientsHaveFlagCleared k.flag p = true) : AllAnswered k p := by
  intro t hreg
  obtain ⟨hu, htask⟩ := (h.reg t).mp hreg
  obtain ⟨c, hc, rfl⟩ := (hasTask_eq_true p).mp htask
  unfold appPowerAllClientsHaveFlagCleared at hcleared
  rw [Bool.and_eq_true, List.all_eq_true] at hcleared
  have hflag : c.2 k.flag = false := (Bool.not_eq_true' _).mp (hcleared.2 c hc)
  rw [h.waiting hstate c hc hu, hflag]
  rfl

theorem tracks_afterClear {u : Option τ} (e : PowerEnv) (j : Preparation) (h : Tracks k u p)
    (hstate : p.state = j.waiting) :
    Tracks k u (if appPowerAllClientsHaveFlagCleared j.flag p then appPowerSetState e j.responded p else p) := by
  split
  · rename_i hcleared
    refine h.enterResponded e hstate fun hk => ?_
    subst hk
    exact allAnswered_of_cleared h hstate hcleared
  · exact h

def respond (e : PowerEnv) (k : Preparation) (task : τ) (p : PowerManager τ) : PowerManager τ :=
  prepareResponse e k.waiting k.responded k.flag task p

theorem tracks_respond (e : PowerEnv) (j : Preparation) (h : Tracks k none p) (task : τ) :
    Tracks k none (respond e j task (p.note (.called (j.response task)))) := by
  unfold respond prepareResponse
  dsimp only
  by_cases hk : j = k
  · subst hk
    split
    · rename_i hcond
      exact tracks_afterClear e j (h.answer hcond.1) hcond.1
    · rename_i hcond
      exact h.unanswered hcond
  · have hcall : Tracks k none (p.note (.called (j.response task))) := by
      refine h.called (neutral_called (fun t => ?_) (fun t => ?_) fun t => ?_)
      · cases j <;> exact fun heq => by cases heq
      · cases j <;> exact fun heq => by cases heq
      · cases k <;> cases j <;> first | exact absurd rfl hk | exact fun heq => by cases heq
    split
    · rename_i hcond
      have hflag : j.flag ≠ k.flag := by cases k <;> cases j <;> first | decide | exact absurd rfl hk
      exact tracks_afterClear e j (hcall.putFlag task false (.inl hflag)) hcond.1
    · exact hcall

theorem tracks_respond_leaving (e : PowerEnv) (j : Preparation) {task : τ} (h : Tracks k (some task) p) :
    Tracks k (some task) (respond e j task p) := by
  unfold respond prepareResponse
  split
  · rename_i hcond
    exact tracks_afterClear e j (h.putFlag task false (.inr (.inr rfl))) hcond.1
  · exact h

theorem tracks_allowSleep {u : Option τ} (e : PowerEnv) (task : τ) (h : Tracks k u p) :
    Tracks k u (appPowerClientAllowSleep e task p) := by
  have hset : Tracks k u (appPowerSetFlagInClient task .allowSleep p) :=
    h.putFlag task true (.inl (by cases k <;> decide))
  unfold appPowerClientAllowSleep
  dsimp only
  split
  · rename_i hcond
    exact hset.enterNotified e .sleep hcond.1
  · exact hset

theorem tracks_powerEvent (e : PowerEnv) (h : Tracks k none p) : Tracks k none (appPowerHandlePowerEvent e p) := by
  unfold appPowerHandlePowerEvent
  split
  · rename_i hstate
    change Tracks k none (enterOk (if appPowerNeedsToPowerOff e p then p.note .systemShutdown else p))
    split
    · refine Tracks.enterOk_init (h.note (neutral_inner k rfl) (fun _ heq => by cases heq) ?_) hstate
      exact fun _ => .inl (h.start hstate)
    · exact h.enterOk_init hstate
  · rename_i hstate
    split
    · exact h.enterNotified e .shutdown hstate
    · split
      · exact h.enterNotified e .sleep hstate
      · exact h
  · exact h

theorem hasTask_append (task t : τ) (p : PowerManager τ) (flags : Flag → Bool) :
    hasTask t { p with clients := p.clients ++ [(task, flags)] } = (p.hasTask t || decide (task = t)) := by
  unfold hasTask
  rw [List.any_append, List.any_cons, List.any_nil, Bool.or_false]

theorem registered_register (task t : τ) (log : List (Entry τ)) :
    registered t (.called (.register task) :: log) = (registered t log || decide (task = t)) := by
  rw [registered]
  by_cases heq : task = t
  · rw [if_pos (congrArg Call.register heq), decide_eq_true heq, Bool.or_true]
  · have hun : Call.register task ≠ .unregister t := fun h => by cases h
    rw [if_neg fun h => heq (Call.register.inj h), if_neg hun, decide_eq_false heq, Bool.or_false]

theorem dialogue_register (k : Preparation) (task t : τ) (log : List (Entry τ)) :
    dialogue k t (.called (.register task) :: log) = dialogue k t log := by
  have hun : Call.register task ≠ .unregister t := fun h => by cases h
  have hresp : Call.register task ≠ k.response t := by cases k <;> exact fun h => by cases h
  rw [dialogue, if_neg hun, if_neg fun h => hresp h.1]

theorem tracks_late {task : τ} (h : Tracks k none p) (hstate : p.state = k.waiting) (hnew : p.hasTask task = false) :
    Tracks k none (PowerManager.note (.send task k.prepareInd) (putFlagInClient task k.flag true
      { p.note (.called (.register task)) with clients := p.clients ++ [(task, fun _ => false)] })) := by
  have hd : ∀ t, dialogue k t (.send task k.prepareInd :: .called (.register task) :: p.log) =
      if task = t then .asked else dialogue k t p.log := by
    intro t
    have hnever : ¬(task = t ∧ k.prepareInd = k.cancelledInd) :=
      fun hboth => Preparation.prepareInd_ne_cancelledInd k k hboth.2
    rw [dialogue]
    by_cases heq : task = t
    · rw [if_pos ⟨heq, rfl⟩, if_pos heq]
    · rw [if_neg fun h => heq h.1, if_neg hnever, if_neg heq, dialogue_register]
  have htask : ∀ t, hasTask t (PowerManager.note (.send task k.prepareInd) (putFlagInClient task k.flag true
      { p.note (.called (.register task)) with clients := p.clients ++ [(task, fun _ => false)] })) =
      (p.hasTask t || decide (task = t)) := by
    intro t
    rw [← hasTask_append task t p fun _ => false]
    unfold hasTask PowerManager.note putFlagInClient
    rw [List.any_map]
    congr 1
    funext c
    rw [Function.comp_apply]
    split <;> rfl
  constructor
  · intro t
    rw [htask, Bool.or_eq_true, ← and_iff_right_of_imp (b := p.hasTask t = true) fun _ => (Option.some_ne_none t),
      ← h.reg t]
    refine (Iff.of_eq (congrArg (· = true) (registered_register task t p.log))).trans ?_
    rw [Bool.or_eq_true]
    exact ⟨fun h => ⟨Option.some_ne_none _, h⟩, fun h => h.2⟩
  · intro t hu ht
    have hnone := (registered_register task t p.log).symm.trans ht
    rw [Bool.or_eq_false_iff] at hnone
    refine (hd t).trans ?_
    rw [if_neg (of_decide_eq_false hnone.2)]
    exact h.silent t hu hnone.1
  · intro _ c hc hu
    obtain ⟨c', hc', rfl⟩ := List.mem_map.mp hc
    refine (hd _).trans ?_
    obtain hold | hlast := List.mem_append.mp hc'
    · have hne : c'.1 ≠ task := by
        intro heq
        rw [(hasTask_eq_true p).mpr ⟨c', hold, heq⟩] at hnew
        exact Bool.noConfusion hnew
      rw [if_neg hne, if_neg hne.symm]
      exact h.waiting hstate c' hold (Option.some_ne_none _)
    · obtain rfl := List.mem_singleton.mp hlast
      have hset : Function.update (fun _ : Flag => false) k.flag true k.flag = true := Function.update_self ..
      rw [if_pos rfl, if_pos rfl]
      exact (if_pos hset).symm
  · intro hw _ _ _
    exact absurd hstate hw
  · intro hinit
    exact absurd (hstate.symm.trans hinit) (by cases k <;> decide)
  · refine (h.sound.cons fun htaken => ?_).cons fun htaken => ?_
    · rw [taken_called] at htaken
      exact absurd htaken Bool.false_ne_true
    · rw [taken_send] at htaken
      exact absurd htaken Bool.false_ne_true

theorem tracks_added {task : τ} (h : Tracks k none p) (hstate : p.state ≠ k.waiting) :
    Tracks k none { p.note (.called (.register task)) with clients := p.clients ++ [(task, fun _ => false)] } := by
  have hd := fun t => dialogue_register k task t p.log
  constructor
  · intro t
    rw [show hasTask t { p.note (.called (.register task)) with clients := p.clients ++ [(task, fun _ => false)] } =
      (p.hasTask t || decide (task = t)) from hasTask_append task t p fun _ => false]
    refine (Iff.of_eq (congrArg (· = true) (registered_register task t p.log))).trans ?_
    rw [Bool.or_eq_true, Bool.or_eq_true, h.reg t]
    exact ⟨fun hor => ⟨Option.some_ne_none _, hor.imp (·.2) id⟩, fun hand => hand.2.imp (⟨Option.some_ne_none _, ·⟩) id⟩
  · intro t hu ht
    have hnone := (registered_register task t p.log).symm.trans ht
    rw [Bool.or_eq_false_iff] at hnone
    exact (hd t).trans (h.silent t hu hnone.1)
  · exact fun heq => absurd heq hstate
  · exact fun hwait hresp t hu => (hd t).trans (h.resting hwait hresp t hu)
  · intro hinit hmem
    obtain heq | hmem := List.mem_cons.mp hmem
    · cases heq
    · exact h.start hinit hmem
  · refine h.sound.cons fun htaken => ?_
    rw [taken_called] at htaken
    exact absurd htaken Bool.false_ne_true

theorem tracks_registered {task : τ} (h : Tracks k none p) (hold : p.hasTask task = true) :
    Tracks k none (p.note (.called (.register task))) := by
  have hd := fun t => dialogue_register k task t p.log
  have hr : ∀ t, registered t (.called (.register task) :: p.log) = registered t p.log := by
    intro t
    rw [registered_register]
    by_cases heq : task = t
    · subst heq
      rw [(h.reg task).mpr ⟨Option.some_ne_none _, hold⟩]
      rfl
    · rw [decide_eq_false heq, Bool.or_false]
  constructor
  · exact fun t => (Iff.of_eq (congrArg (· = true) (hr t))).trans (h.reg t)
  · exact fun t hu ht => (hd t).trans (h.silent t hu ((hr t).symm.trans ht))
  · exact fun hstate c hc hu => (hd c.1).trans (h.waiting hstate c hc hu)
  · exact fun hwait hresp t hu => (hd t).trans (h.resting hwait hresp t hu)
  · intro hinit hmem
    obtain heq | hmem := List.mem_cons.mp hmem
    · cases heq
    · exact h.start hinit hmem
  · refine h.sound.cons fun htaken => ?_
    rw [taken_called] at htaken
    exact absurd htaken Bool.false_ne_true

theorem tracks_lateOther {task : τ} {j : Preparation} (h : Tracks k none p) (hk : j ≠ k)
    (hstate : p.state = j.waiting) :
    Tracks k none (PowerManager.note (.send task j.prepareInd) (putFlagInClient task j.flag true
      { p.note (.called (.register task)) with clients := p.clients ++ [(task, fun _ => false)] })) := by
  have hother : p.state ≠ k.waiting := by
    rw [hstate]
    cases k <;> cases j <;> first | decide | exact absurd rfl hk
  have hflag : j.flag ≠ k.flag := by cases k <;> cases j <;> first | decide | exact absurd rfl hk
  have hask : j.prepareInd ≠ k.prepareInd := by cases k <;> cases j <;> first | decide | exact absurd rfl hk
  refine ((tracks_added h hother).putFlag task true (.inl hflag)).note
    (neutral_send hask (Preparation.prepareInd_ne_cancelledInd j k) task) (fun _ heq => by cases heq) fun htaken => ?_
  rw [taken_send] at htaken
  exact absurd htaken Bool.false_ne_true

theorem tracks_register (task : τ) (hroom : hasRoom p (.register task) = true) (h : Tracks k none p) :
    Tracks k none (appPowerClientRegister task (p.note (.called (.register task)))) := by
  unfold appPowerClientRegister
  split
  · rename_i hold
    exact tracks_registered h hold
  · rename_i hnew
    have hfew : p.clients.length < taskListMaxTasks :=
      of_decide_eq_true ((Bool.or_eq_true_iff.mp hroom).resolve_left hnew)
    rw [if_neg (show ¬ taskListMaxTasks ≤ (p.note (.called (.register task))).clients.length from not_le.mpr hfew)]
    have hfresh : p.hasTask task = false := Bool.eq_false_iff.mpr hnew
    have hasks : ∀ j : Preparation, p.state = j.waiting →
        Tracks k none (PowerManager.note (.send task j.prepareInd) (putFlagInClient task j.flag true
          { p.note (.called (.register task)) with clients := p.clients ++ [(task, fun _ => false)] })) := by
      intro j hstate
      by_cases hk : j = k
      · subst hk
        exact tracks_late h hstate hfresh
      · exact tracks_lateOther h hk hstate
    dsimp only
    split
    · rename_i hstate
      have hadded : Tracks k none
          { p.note (.called (.register task)) with clients := p.clients ++ [(task, fun _ => false)] } :=
        tracks_added h (by rw [show p.state = .init from hstate]; cases k <;> decide)
      refine hadded.note (neutral_inner k rfl) (fun _ heq => by cases heq) fun htaken => ?_
      cases k <;> simp [Preparation.taken] at htaken
    · exact hasks .shutdown ‹_›
    · exact hasks .sleep ‹_›
    · rename_i hstate
      exact tracks_added h (by rw [show p.state = .ok from hstate]; cases k <;> decide)
    · rename_i hstate
      exact tracks_added h (by rw [show p.state = .terminatingClientsResponded from hstate]; cases k <;> decide)
    · rename_i hstate
      exact tracks_added h (by rw [show p.state = .soporificClientsResponded from hstate]; cases k <;> decide)

theorem log_removeClient (task : τ) (p : PowerManager τ) : (removeClient task p).log =
    .cancelAll task .shutdownCancelledInd :: .cancelAll task .shutdownPrepareInd ::
      .cancelAll task .sleepCancelledInd :: .cancelAll task .sleepPrepareInd :: p.log := rfl

theorem tracks_remove {task : τ} (h : Tracks k (some task) p) :
    Tracks k none (removeClient task p) := by
  have hd : ∀ t, t ≠ task → dialogue k t (.cancelAll task .shutdownCancelledInd ::
      .cancelAll task .shutdownPrepareInd :: .cancelAll task .sleepCancelledInd ::
      .cancelAll task .sleepPrepareInd :: p.log) = dialogue k t p.log := by
    intro t ht
    have hne : ∀ m, ¬(task = t ∧ m = k.prepareInd) := fun m h => ht h.1.symm
    rw [dialogue, if_neg (hne _), dialogue, if_neg (hne _), dialogue, if_neg (hne _), dialogue, if_neg (hne _)]
  have hself : dialogue k task (.cancelAll task .shutdownCancelledInd ::
      .cancelAll task .shutdownPrepareInd :: .cancelAll task .sleepCancelledInd ::
      .cancelAll task .sleepPrepareInd :: p.log) = .quiet := by
    cases k <;> simp [dialogue, Preparation.prepareInd]
  have htask : ∀ t, hasTask t { p with clients := p.clients.filter fun c => decide (c.1 ≠ task) } = true ↔
      t ≠ task ∧ p.hasTask t = true := by
    intro t
    rw [hasTask_eq_true, hasTask_eq_true]
    constructor
    · rintro ⟨c, hc, rfl⟩
      obtain ⟨hmem, hne⟩ := List.mem_filter.mp hc
      exact ⟨of_decide_eq_true hne, c, hmem, rfl⟩
    · rintro ⟨hne, c, hc, rfl⟩
      exact ⟨c, List.mem_filter.mpr ⟨hc, decide_eq_true hne⟩, rfl⟩
  have hquiet : ∀ t, (t ≠ task → dialogue k t p.log = .quiet) → dialogue k t
      (.cancelAll task .shutdownCancelledInd :: .cancelAll task .shutdownPrepareInd ::
        .cancelAll task .sleepCancelledInd :: .cancelAll task .sleepPrepareInd :: p.log) = .quiet := by
    intro t ht
    by_cases heq : t = task
    · rw [heq]
      exact hself
    · rw [hd t heq]
      exact ht heq
  have hne : ∀ {t}, t ≠ task → some t ≠ some task := fun h heq => h (Option.some.inj heq)
  constructor
  · intro t
    refine Iff.trans (h.reg t) ?_
    refine Iff.trans ?_ (and_iff_right (Option.some_ne_none t)).symm
    refine Iff.trans ?_ (htask t).symm
    exact and_congr_left fun _ => not_congr Option.some_inj
  · exact fun t _ ht => hquiet t fun heq => h.silent t (hne heq) ht
  · intro hstate c hc _
    obtain ⟨hmem, hleft⟩ := List.mem_filter.mp hc
    have heq := of_decide_eq_true hleft
    exact (hd c.1 heq).trans (h.waiting hstate c hmem (hne heq))
  · exact fun hwait hresp t _ => hquiet t fun heq => h.resting hwait hresp t (hne heq)
  · intro hinit hmem
    rw [log_removeClient] at hmem
    simp only [List.mem_cons, reduceCtorEq, false_or] at hmem
    exact h.start hinit hmem
  · have hnever : ∀ (m : ClientMessage) (log : List (Entry τ)), k.taken (.cancelAll task m : Entry τ) = true →
        Entry.initCfm ∉ log ∨ ∀ t, registered t log = true → dialogue k t log = .answered := by
      intro m log htaken
      cases k <;> simp [Preparation.taken] at htaken
    exact (((h.sound.cons (hnever _ _)).cons (hnever _ _)).cons (hnever _ _)).cons (hnever _ _)

theorem tracks_leaving {task : τ} (h : Tracks k none p) :
    Tracks k (some task) (p.note (.called (.unregister task))) := by
  have hd : ∀ t, t ≠ task → dialogue k t (.called (.unregister task) :: p.log) = dialogue k t p.log := by
    intro t ht
    have hresp : Call.unregister task ≠ k.response t := by cases k <;> exact fun h => by cases h
    rw [dialogue, if_neg fun heq => ht (Call.unregister.inj heq).symm, if_neg fun h => hresp h.1]
  have hr : ∀ t, registered t (.called (.unregister task) :: p.log) = (registered t p.log && decide (t ≠ task)) := by
    intro t
    have hreg : Call.unregister task ≠ .register t := fun h => by cases h
    rw [registered, if_neg hreg]
    by_cases heq : t = task
    · rw [if_pos (congrArg Call.unregister heq.symm), decide_eq_false (not_not.mpr heq), Bool.and_false]
    · rw [if_neg fun h => heq (Call.unregister.inj h).symm, decide_eq_true heq, Bool.and_true]
  have hne : ∀ {t}, some t ≠ some task → t ≠ task := fun h heq => h (congrArg some heq)
  constructor
  · intro t
    refine (Iff.of_eq (congrArg (· = true) (hr t))).trans ?_
    rw [Bool.and_eq_true, h.reg t, decide_eq_true_iff]
    exact ⟨fun hand => ⟨fun heq => hand.2 (Option.some.inj heq), hand.1.2⟩, fun hand => ⟨⟨Option.some_ne_none _, hand.2⟩, hne hand.1⟩⟩
  · intro t hu ht
    have hnone := (hr t).symm.trans ht
    rw [decide_eq_true (hne hu), Bool.and_true] at hnone
    exact (hd t (hne hu)).trans (h.silent t (Option.some_ne_none t) hnone)
  · exact fun hstate c hc hu => (hd c.1 (hne hu)).trans (h.waiting hstate c hc (Option.some_ne_none _))
  · exact fun hwait hresp t hu => (hd t (hne hu)).trans (h.resting hwait hresp t (Option.some_ne_none t))
  · intro hinit hmem
    obtain heq | hmem := List.mem_cons.mp hmem
    · cases heq
    · exact h.start hinit hmem
  · refine h.sound.cons fun htaken => ?_
    rw [taken_called] at htaken
    exact absurd htaken Bool.false_ne_true

theorem tracks_unregister (e : PowerEnv) (task : τ) (h : Tracks k none p) :
    Tracks k none (appPowerClientUnregister e task (p.note (.called (.unregister task)))) := by
  have hleaving : Tracks k (some task) (p.note (.called (.unregister task))) := tracks_leaving h
  have hallowed := tracks_allowSleep e task hleaving
  have hshutdown := tracks_respond_leaving e .shutdown hallowed
  exact tracks_remove (tracks_respond_leaving e .sleep hshutdown)

theorem tracks_step (c : PowerEnv × Call τ) (hroom : hasRoom p c.2 = true) (h : Tracks k none p) :
    Tracks k none (powerStep p c) := by
  obtain ⟨e, c⟩ := c
  have hplain : (∀ t, c ≠ .register t) → (∀ t, c ≠ .unregister t) → (∀ t, c ≠ k.response t) →
      Tracks k none (p.note (.called c)) := fun hreg hun hresp => h.called (neutral_called hreg hun hresp)
  have hother : (∀ t, c ≠ .register t) → (∀ t, c ≠ .unregister t) → (∀ t, c ≠ .shutdownPrepareResponse t) →
      (∀ t, c ≠ .sleepPrepareResponse t) → Tracks k none (p.note (.called c)) := by
    intro hreg hun hshut hsleep
    refine hplain hreg hun ?_
    cases k
    · exact hshut
    · exact hsleep
  cases c with
  | register task => exact tracks_register task hroom h
  | unregister task => exact tracks_unregister e task h
  | shutdownPrepareResponse task => exact tracks_respond e .shutdown h task
  | sleepPrepareResponse task => exact tracks_respond e .sleep h task
  | allowSleep task =>
    exact tracks_allowSleep e task (hother (fun _ h => by cases h) (fun _ h => by cases h) (fun _ h => by cases h)
      fun _ h => by cases h)
  | prohibitSleep task =>
    have hcall := hother (fun _ h => by cases h) (fun _ h => by cases h) (fun _ h => by cases h) fun _ h => by cases h
    exact hcall.putFlag task false (.inl (by cases k <;> decide))
  | offRequest =>
    have hcall := hother (fun _ h => by cases h) (fun _ h => by cases h) (fun _ h => by cases h) fun _ h => by cases h
    change Tracks k none (appPowerOffRequest e _)
    unfold appPowerOffRequest
    split
    · rename_i hcond
      exact (hcall.congr (q := { p.note (.called .offRequest) with userInitiatedShutdown := true }) rfl rfl
        rfl).enterNotified e .shutdown hcond.2
    · exact hcall
  | on =>
    have hcall := hother (fun _ h => by cases h) (fun _ h => by cases h) (fun _ h => by cases h) fun _ h => by cases h
    exact hcall.sends (by cases k <;> decide) (by cases k <;> decide)
  | initComplete =>
    have hcall := hother (fun _ h => by cases h) (fun _ h => by cases h) (fun _ h => by cases h) fun _ h => by cases h
    exact tracks_powerEvent e (hcall.congr rfl rfl rfl)
  | handlePowerEvent =>
    have hcall := hother (fun _ h => by cases h) (fun _ h => by cases h) (fun _ h => by cases h) fun _ h => by cases h
    exact tracks_powerEvent e hcall

theorem tracks_init : Tracks k none (appPowerInit : PowerManager τ) := by
  refine ⟨fun t => ?_, fun _ _ _ => rfl, fun heq => ?_, fun _ _ _ _ => rfl, fun _ => List.not_mem_nil, sound_nil k⟩
  · exact ⟨fun h => absurd h Bool.false_ne_true, fun h => absurd h.2 Bool.false_ne_true⟩
  · cases k <;> cases heq

theorem tracks_powerRun (k : Preparation) {calls : List (PowerEnv × Call τ)}
    (hfits : fitsList appPowerInit calls = true) : Tracks k none (powerRun calls) :=
  powerRun_rule tracks_init (fun _ c hroom h => tracks_step c hroom h) hfits

end Calls

end SmartHelmet.Power
