import SmartHelmet.PowerManager

/-!
What the power manager's clients are asked and what they answer. The dialogue with a client
is read off the log: a preparation asks, a response answers, a cancellation or the end of the
registration closes it.
-/

namespace SmartHelmet.Power

open PowerManager

variable {τ : Type} [DecidableEq τ]

inductive Preparation where
  | shutdown | sleep
  deriving DecidableEq

namespace Preparation

def prepareInd : Preparation → ClientMessage
  | .shutdown => .shutdownPrepareInd
  | .sleep => .sleepPrepareInd

def cancelledInd : Preparation → ClientMessage
  | .shutdown => .shutdownCancelledInd
  | .sleep => .sleepCancelledInd

def flag : Preparation → Flag
  | .shutdown => .shutdownPrepareResponsePending
  | .sleep => .sleepPrepareResponsePending

def waiting : Preparation → PowerState
  | .shutdown => .terminatingClientsNotified
  | .sleep => .soporificClientsNotified

def responded : Preparation → PowerState
  | .shutdown => .terminatingClientsResponded
  | .sleep => .soporificClientsResponded

def response (k : Preparation) (task : τ) : Call τ :=
  match k with
  | .shutdown => .shutdownPrepareResponse task
  | .sleep => .sleepPrepareResponse task

def taken (k : Preparation) (o : Entry τ) : Bool :=
  match k with
  | .shutdown => decide (o = .systemShutdown ∨ o = .systemEmergencyShutdown)
  | .sleep => decide (o = .systemSleep)

theorem prepareInd_ne_cancelledInd (k j : Preparation) : k.prepareInd ≠ j.cancelledInd := by
  cases k <;> cases j <;> decide

theorem waiting_ne_responded (k j : Preparation) : k.waiting ≠ j.responded := by
  cases k <;> cases j <;> decide

end Preparation

inductive Dialogue where
  | quiet | asked | answered
  deriving DecidableEq

def dialogue (k : Preparation) (t : τ) : List (Entry τ) → Dialogue
  | [] => .quiet
  | .send t' m :: log =>
    if t' = t ∧ m = k.prepareInd then .asked
    else if t' = t ∧ m = k.cancelledInd then .quiet
    else dialogue k t log
  | .called c :: log =>
    if c = .unregister t then .quiet
    else if c = k.response t ∧ dialogue k t log = .asked then .answered
    else dialogue k t log
  | .cancelAll t' m :: log => if t' = t ∧ m = k.prepareInd then .quiet else dialogue k t log
  | _ :: log => dialogue k t log

def registered (t : τ) : List (Entry τ) → Bool
  | [] => false
  | .called c :: log => if c = .register t then true else if c = .unregister t then false else registered t log
  | _ :: log => registered t log

/-- Every step of the kind was taken when all registered clients had answered, or while the
manager was not yet initialised. -/
def Sound (k : Preparation) (log : List (Entry τ)) : Prop :=
  ∀ o post, (o :: post) <:+ log → k.taken o = true →
    Entry.initCfm ∉ post ∨ ∀ t, registered t post = true → dialogue k t post = .answered

theorem sound_nil (k : Preparation) : Sound k ([] : List (Entry τ)) := by
  intro o post hsuffix
  exact absurd (List.eq_nil_of_suffix_nil hsuffix) (List.cons_ne_nil o post)

theorem Sound.cons {k : Preparation} {log : List (Entry τ)} (h : Sound k log) {o : Entry τ}
    (ho : k.taken o = true →
      Entry.initCfm ∉ log ∨ ∀ t, registered t log = true → dialogue k t log = .answered) :
    Sound k (o :: log) := by
  intro o' post hsuffix htaken
  obtain heq | hlog := List.suffix_cons_iff.mp hsuffix
  · obtain ⟨rfl, rfl⟩ := List.cons.inj heq
    exact ho htaken
  · exact h o' post hlog htaken

/-- The state of the manager and the dialogues of its log; `u` is a client that is leaving. -/
structure Tracks (k : Preparation) (u : Option τ) (p : PowerManager τ) : Prop where
  reg : ∀ t, registered t p.log = true ↔ some t ≠ u ∧ p.hasTask t = true
  silent : ∀ t, some t ≠ u → registered t p.log = false → dialogue k t p.log = .quiet
  waiting : p.state = k.waiting → ∀ c ∈ p.clients, some c.1 ≠ u →
    dialogue k c.1 p.log = if c.2 k.flag then .asked else .answered
  resting : p.state ≠ k.waiting → p.state ≠ k.responded → ∀ t, some t ≠ u → dialogue k t p.log = .quiet
  start : p.state = .init → Entry.initCfm ∉ p.log
  sound : Sound k p.log

def Neutral (k : Preparation) (o : Entry τ) : Prop :=
  ∀ log t, dialogue k t (o :: log) = dialogue k t log ∧ registered t (o :: log) = registered t log

theorem neutral_send {k : Preparation} {m : ClientMessage} (hask : m ≠ k.prepareInd) (hcancel : m ≠ k.cancelledInd)
    (t : τ) : Neutral k (.send t m) := by
  intro log t'
  refine ⟨?_, rfl⟩
  rw [dialogue, if_neg fun h => hask h.2, if_neg fun h => hcancel h.2]

def Entry.inner : Entry τ → Bool
  | .called _ | .send _ _ | .cancelAll _ _ => false
  | _ => true

theorem neutral_inner (k : Preparation) {o : Entry τ} (ho : o.inner = true) : Neutral k o := by
  intro log t
  cases o with
  | called | send | cancelAll => exact absurd ho Bool.false_ne_true
  | _ => exact ⟨rfl, rfl⟩

section Primitive

variable {k : Preparation} {u : Option τ} {p : PowerManager τ}

theorem Tracks.note (h : Tracks k u p) {o : Entry τ} (hneutral : Neutral k o)
    (hinit : p.state = .init → o ≠ .initCfm)
    (htaken : k.taken o = true →
      Entry.initCfm ∉ p.log ∨ ∀ t, registered t p.log = true → dialogue k t p.log = .answered) :
    Tracks k u (p.note o) := by
  have hd : ∀ t, dialogue k t (o :: p.log) = dialogue k t p.log := fun t => (hneutral p.log t).1
  have hr : ∀ t, registered t (o :: p.log) = registered t p.log := fun t => (hneutral p.log t).2
  constructor
  · intro t
    rw [show (p.note o).log = o :: p.log from rfl, hr]
    exact h.reg t
  · intro t hu ht
    rw [show (p.note o).log = o :: p.log from rfl, hr] at ht
    exact (hd t).trans (h.silent t hu ht)
  · intro hstate c hc hu
    exact (hd c.1).trans (h.waiting hstate c hc hu)
  · intro hwait hresp t hu
    exact (hd t).trans (h.resting hwait hresp t hu)
  · intro hstate hmem
    obtain heq | hmem := List.mem_cons.mp hmem
    · exact hinit hstate heq.symm
    · exact h.start hstate hmem
  · exact h.sound.cons htaken

theorem Tracks.congr (h : Tracks k u p) {q : PowerManager τ} (hstate : q.state = p.state)
    (hclients : q.clients = p.clients) (hlog : q.log = p.log) : Tracks k u q := by
  obtain ⟨state, clients, user, dormant, complete, log⟩ := p
  obtain ⟨state', clients', user', dormant', complete', log'⟩ := q
  cases hstate
  cases hclients
  cases hlog
  exact ⟨h.reg, h.silent, h.waiting, h.resting, h.start, h.sound⟩

theorem Tracks.setState (h : Tracks k u p) {s : PowerState} (hwait : p.state ≠ k.waiting)
    (hresp : p.state ≠ k.responded) (hs : s ≠ k.waiting) (hinit : s ≠ .init) : Tracks k u { p with state := s } :=
  ⟨h.reg, h.silent, fun heq => absurd heq hs, fun _ _ => h.resting hwait hresp, fun heq => absurd heq hinit, h.sound⟩

theorem Tracks.mapClients (h : Tracks k u p) {g : τ × (Flag → Bool) → τ × (Flag → Bool)} (hfst : ∀ c, (g c).1 = c.1)
    (hflag : p.state = k.waiting → ∀ c ∈ p.clients, some c.1 ≠ u → (g c).2 k.flag = c.2 k.flag) :
    Tracks k u { p with clients := p.clients.map g } := by
  have htask : ∀ t, hasTask t { p with clients := p.clients.map g } = p.hasTask t := by
    intro t
    unfold hasTask
    rw [List.any_map]
    congr 1
    funext c
    rw [Function.comp_apply, hfst]
  refine ⟨?_, h.silent, ?_, h.resting, h.start, h.sound⟩
  · intro t
    rw [htask]
    exact h.reg t
  · intro hstate c hc hu
    obtain ⟨c', hc', rfl⟩ := List.mem_map.mp hc
    rw [hfst] at hu ⊢
    rw [hflag hstate c' hc' hu]
    exact h.waiting hstate c' hc' hu

theorem Tracks.putFlag (h : Tracks k u p) {flag : Flag} (task : τ) (value : Bool)
    (hflag : flag ≠ k.flag ∨ p.state ≠ k.waiting ∨ some task = u) : Tracks k u (putFlagInClient task flag value p) := by
  refine h.mapClients (fun c => ?_) fun hstate c _ hu => ?_
  · split
    · rfl
    · rfl
  · split
    · rename_i heq
      obtain hne | hne | hleft := hflag
      · exact Function.update_of_ne (Ne.symm hne) value c.2
      · exact absurd hstate hne
      · rw [heq] at hu
        exact absurd hleft hu
    · rfl

end Primitive

section Sends

variable (m : ClientMessage) (l : List (τ × (Flag → Bool))) (p : PowerManager τ)

omit [DecidableEq τ] in
theorem state_sends : (taskListMessageSendId m p).state = p.state ∧ (taskListMessageSendId m p).clients = p.clients ∧
    (taskListMessageSendId m p).log = p.clients.foldl (fun log c => .send c.1 m :: log) p.log := by
  have hfold : ∀ (l : List (τ × (Flag → Bool))) (p : PowerManager τ),
      (l.foldl (fun p c => p.note (.send c.1 m)) p).state = p.state ∧
      (l.foldl (fun p c => p.note (.send c.1 m)) p).clients = p.clients ∧
      (l.foldl (fun p c => p.note (.send c.1 m)) p).log = l.foldl (fun log c => .send c.1 m :: log) p.log := by
    intro l
    induction l with
    | nil => exact fun p => ⟨rfl, rfl, rfl⟩
    | cons c l ih => exact fun p => ih (p.note (.send c.1 m))
  exact hfold p.clients p

theorem hasTask_eq_true {t : τ} : p.hasTask t = true ↔ ∃ c ∈ p.clients, c.1 = t := by
  unfold hasTask
  rw [List.any_eq_true]
  constructor
  · rintro ⟨c, hc, heq⟩
    exact ⟨c, hc, of_decide_eq_true heq⟩
  · rintro ⟨c, hc, heq⟩
    exact ⟨c, hc, decide_eq_true heq⟩

theorem registered_sends (t : τ) (log : List (Entry τ)) :
    registered t (l.foldl (fun log c => .send c.1 m :: log) log) = registered t log := by
  induction l generalizing log with
  | nil => rfl
  | cons c l ih => exact ih (.send c.1 m :: log)

omit [DecidableEq τ] in
theorem mem_initCfm_sends (log : List (Entry τ)) :
    Entry.initCfm ∈ l.foldl (fun log c => .send c.1 m :: log) log ↔ Entry.initCfm ∈ log := by
  induction l generalizing log with
  | nil => exact Iff.rfl
  | cons c l ih =>
    refine (ih (.send c.1 m :: log)).trans ?_
    rw [List.mem_cons]
    exact or_iff_right fun heq => nomatch heq

theorem taken_send (k : Preparation) (t : τ) : k.taken (.send t m) = false := by
  cases k <;> rfl

theorem sound_sends {k : Preparation} {log : List (Entry τ)} (h : Sound k log) :
    Sound k (l.foldl (fun log c => .send c.1 m :: log) log) := by
  induction l generalizing log with
  | nil => exact h
  | cons c l ih =>
    refine ih (h.cons fun htaken => ?_)
    rw [taken_send] at htaken
    exact absurd htaken Bool.false_ne_true

theorem dialogue_sends {k : Preparation} {d : Dialogue}
    (hd : (m = k.prepareInd ∧ d = .asked) ∨ (m = k.cancelledInd ∧ d = .quiet)) (t : τ) (log : List (Entry τ)) :
    dialogue k t (l.foldl (fun log c => .send c.1 m :: log) log) =
      if ∃ c ∈ l, c.1 = t then d else dialogue k t log := by
  have hone : ∀ t' log, dialogue k t (.send t' m :: log) = if t' = t then d else dialogue k t log := by
    intro t' log
    rw [dialogue]
    obtain ⟨rfl, rfl⟩ | ⟨rfl, rfl⟩ := hd
    · split_ifs with h1 h2 h3 <;> simp_all
    · have hne := (Preparation.prepareInd_ne_cancelledInd k k).symm
      split_ifs with h1 h2 h3 <;> simp_all
  induction l generalizing log with
  | nil => simp
  | cons c l ih =>
    rw [List.foldl_cons, ih, hone]
    by_cases hl : ∃ c' ∈ l, c'.1 = t
    · rw [if_pos hl, if_pos (hl.imp fun c' hc' => ⟨List.mem_cons_of_mem c hc'.1, hc'.2⟩)]
    · rw [if_neg hl]
      by_cases hc : c.1 = t
      · rw [if_pos hc, if_pos ⟨c, List.mem_cons_self, hc⟩]
      · rw [if_neg hc, if_neg]
        rintro ⟨c', hc', heq⟩
        obtain rfl | hmem := List.mem_cons.mp hc'
        · exact hc heq
        · exact hl ⟨c', hmem, heq⟩

theorem dialogue_sends_other {k : Preparation} (hask : m ≠ k.prepareInd) (hcancel : m ≠ k.cancelledInd) (t : τ)
    (log : List (Entry τ)) : dialogue k t (l.foldl (fun log c => .send c.1 m :: log) log) = dialogue k t log := by
  induction l generalizing log with
  | nil => rfl
  | cons c l ih => exact (ih (.send c.1 m :: log)).trans (neutral_send hask hcancel c.1 log t).1

end Sends

section Moves

variable {k : Preparation} {u : Option τ} {p : PowerManager τ}

theorem hasTask_of_clients {p p' : PowerManager τ} (h : p'.clients = p.clients) (t : τ) : p'.hasTask t = p.hasTask t := by
  unfold hasTask
  rw [h]

theorem Tracks.sends (h : Tracks k u p) {m : ClientMessage} (hask : m ≠ k.prepareInd)
    (hcancel : m ≠ k.cancelledInd) : Tracks k u (taskListMessageSendId m p) := by
  obtain ⟨hstate, hclients, hlog⟩ := state_sends m p
  have hd := fun t => dialogue_sends_other m p.clients hask hcancel t p.log
  have hr := fun t => registered_sends m p.clients t p.log
  constructor
  · intro t
    rw [hlog, hr, hasTask_of_clients hclients]
    exact h.reg t
  · intro t hu ht
    rw [hlog, hr] at ht
    rw [hlog, hd]
    exact h.silent t hu ht
  · intro hwait c hc hu
    rw [hclients] at hc
    rw [hlog, hd]
    exact h.waiting (hstate.symm.trans hwait) c hc hu
  · intro hwait hresp t hu
    rw [hstate] at hwait hresp
    rw [hlog, hd]
    exact h.resting hwait hresp t hu
  · intro hinit
    rw [hlog, mem_initCfm_sends]
    exact h.start (hstate.symm.trans hinit)
  · rw [hlog]
    exact sound_sends m p.clients h.sound

theorem Tracks.asks (h : Tracks k u p) (hwait : p.state ≠ k.waiting) (hresp : p.state ≠ k.responded) :
    Tracks k u (appPowerSetFlagInAllClients k.flag (taskListMessageSendId k.prepareInd { p with state := k.waiting })) := by
  obtain ⟨hstate, hclients, hlog⟩ := state_sends k.prepareInd { p with state := k.waiting }
  have hd := fun t => dialogue_sends k.prepareInd p.clients (k := k) (.inl ⟨rfl, rfl⟩) t p.log
  have hr := fun t => registered_sends k.prepareInd p.clients t p.log
  have htask : ∀ t, hasTask t (appPowerSetFlagInAllClients k.flag
      (taskListMessageSendId k.prepareInd { p with state := k.waiting })) = p.hasTask t := by
    intro t
    unfold hasTask appPowerSetFlagInAllClients
    rw [List.any_map, hclients]
    rfl
  have hwaiting : k.waiting ≠ .init := by cases k <;> decide
  constructor
  · intro t
    rw [htask]
    change registered t (taskListMessageSendId k.prepareInd { p with state := k.waiting }).log = true ↔ _
    rw [hlog, hr]
    exact h.reg t
  · intro t hu ht
    change registered t (taskListMessageSendId k.prepareInd { p with state := k.waiting }).log = false at ht
    change dialogue k t (taskListMessageSendId k.prepareInd { p with state := k.waiting }).log = .quiet
    rw [hlog, hr] at ht
    have hnot : ¬∃ c ∈ p.clients, c.1 = t := by
      intro hex
      rw [(h.reg t).mpr ⟨hu, (hasTask_eq_true p).mpr hex⟩] at ht
      exact absurd ht.symm Bool.false_ne_true
    rw [hlog, hd, if_neg hnot]
    exact h.silent t hu ht
  · intro _ c hc _
    obtain ⟨c', hc', rfl⟩ := List.mem_map.mp hc
    rw [hclients] at hc'
    change dialogue k c'.1 (taskListMessageSendId k.prepareInd { p with state := k.waiting }).log =
      if Function.update c'.2 k.flag true k.flag = true then .asked else .answered
    rw [hlog, hd, if_pos ⟨c', hc', rfl⟩, Function.update_self, if_pos rfl]
  · intro hw _ _ _
    exact absurd hstate hw
  · intro hinit
    exact absurd (hstate.symm.trans hinit) hwaiting
  · change Sound k (taskListMessageSendId k.prepareInd { p with state := k.waiting }).log
    rw [hlog]
    exact sound_sends k.prepareInd p.clients h.sound

theorem Tracks.closes (h : Tracks k u p) {s : PowerState} (hs : s ≠ k.waiting) (hinit : s ≠ .init) :
    Tracks k u { taskListMessageSendId k.cancelledInd p with state := s } := by
  obtain ⟨_, hclients, hlog⟩ := state_sends k.cancelledInd p
  have hd := fun t => dialogue_sends k.cancelledInd p.clients (k := k) (.inr ⟨rfl, rfl⟩) t p.log
  have hr := fun t => registered_sends k.cancelledInd p.clients t p.log
  have hquiet : ∀ t, some t ≠ u → dialogue k t (taskListMessageSendId k.cancelledInd p).log = .quiet := by
    intro t hu
    rw [hlog, hd]
    split
    · rfl
    · rename_i hnot
      refine h.silent t hu (Bool.eq_false_iff.mpr fun hreg => hnot ?_)
      exact (hasTask_eq_true p).mp ((h.reg t).mp hreg).2
  constructor
  · intro t
    have htask : hasTask t { taskListMessageSendId k.cancelledInd p with state := s } = p.hasTask t :=
      hasTask_of_clients hclients t
    change registered t (taskListMessageSendId k.cancelledInd p).log = true ↔ _
    rw [hlog, hr, htask]
    exact h.reg t
  · exact fun t hu _ => hquiet t hu
  · exact fun heq => absurd heq hs
  · exact fun _ _ t hu => hquiet t hu
  · exact fun heq => absurd heq hinit
  · change Sound k (taskListMessageSendId k.cancelledInd p).log
    rw [hlog]
    exact sound_sends k.cancelledInd p.clients h.sound

theorem Tracks.leaveWaiting (h : Tracks k u p) {j : Preparation} (hstate : p.state = j.waiting) :
    Tracks k u { p with state := j.responded } := by
  by_cases hk : j = k
  · subst hk
    refine ⟨h.reg, h.silent, fun heq => ?_, fun _ hne => absurd rfl hne, fun heq => ?_, h.sound⟩
    · exact absurd heq.symm (Preparation.waiting_ne_responded j j)
    · cases j <;> cases heq
  · refine h.setState ?_ ?_ ?_ ?_
    · rw [hstate]
      cases k <;> cases j <;> first | decide | exact absurd rfl hk
    · rw [hstate]
      exact Preparation.waiting_ne_responded j k
    · exact (Preparation.waiting_ne_responded k j).symm
    · cases j <;> decide

theorem Tracks.enterOk_responded (h : Tracks k u p) {j : Preparation} (hstate : p.state = j.responded) :
    Tracks k u (enterOk p) := by
  have hexit : exitState p = taskListMessageSendId j.cancelledInd p := by
    unfold exitState
    rw [hstate]
    cases j <;> rfl
  have hok : PowerState.ok ≠ k.waiting := by cases k <;> decide
  have hsent : Tracks k u { exitState p with state := .ok } := by
    rw [hexit]
    by_cases hk : j = k
    · subst hk
      exact h.closes hok (by decide)
    · have hask : j.cancelledInd ≠ k.prepareInd := (Preparation.prepareInd_ne_cancelledInd k j).symm
      have hcancel : j.cancelledInd ≠ k.cancelledInd := by
        cases k <;> cases j <;> first | decide | exact absurd rfl hk
      have hsame := (state_sends j.cancelledInd p).1.trans hstate
      refine (h.sends hask hcancel).setState ?_ ?_ hok (by decide)
      · rw [hsame]
        exact (Preparation.waiting_ne_responded k j).symm
      · rw [hsame]
        cases k <;> cases j <;> first | decide | exact absurd rfl hk
  exact hsent.congr rfl rfl rfl

theorem Tracks.enterOk_init (h : Tracks k u p) (hstate : p.state = .init) : Tracks k u (enterOk p) := by
  have hexit : exitState p = p.note .initCfm := by
    unfold exitState
    rw [hstate]
  have hrest := h.resting (by rw [hstate]; cases k <;> decide) (by rw [hstate]; cases k <;> decide)
  have hneutral := neutral_inner (τ := τ) k (o := .initCfm) rfl
  have hlog : (enterOk p).log = .initCfm :: p.log := by
    unfold enterOk
    rw [hexit]
    rfl
  have hclients : (enterOk p).clients = p.clients := by
    unfold enterOk
    rw [hexit]
    rfl
  constructor
  · intro t
    rw [hlog, (hneutral p.log t).2, hasTask_of_clients hclients]
    exact h.reg t
  · intro t hu _
    rw [hlog, (hneutral p.log t).1]
    exact hrest t hu
  · intro heq
    cases k <;> cases heq
  · intro _ _ t hu
    rw [hlog, (hneutral p.log t).1]
    exact hrest t hu
  · intro heq
    cases heq
  · rw [hlog]
    refine h.sound.cons fun htaken => ?_
    cases k <;> cases htaken

def AllAnswered (k : Preparation) (p : PowerManager τ) : Prop :=
  ∀ t, registered t p.log = true → dialogue k t p.log = .answered

theorem Tracks.enterResponded (e : PowerEnv) (h : Tracks k u p) {j : Preparation} (hstate : p.state = j.waiting)
    (hall : j = k → AllAnswered k p) : Tracks k u (appPowerSetState e j.responded p) := by
  have hmoved := h.leaveWaiting hstate
  have hexit : exitState p = p := by
    unfold exitState
    rw [hstate]
    cases j <;> rfl
  cases j with
  | shutdown =>
    change Tracks k u (enterTerminatingClientsResponded e p)
    unfold enterTerminatingClientsResponded
    rw [hexit]
    dsimp only
    split
    · refine Tracks.enterOk_responded (j := .shutdown) (hmoved.note ?_ ?_ ?_) rfl
      · refine neutral_inner k ?_
        split <;> rfl
      · exact fun heq => nomatch heq
      · intro htaken
        cases k with
        | shutdown => exact .inr (hall rfl)
        | sleep =>
          refine absurd htaken ?_
          split <;> simp [Preparation.taken]
    · exact hmoved.enterOk_responded (j := .shutdown) rfl
  | sleep =>
    change Tracks k u (enterSoporificClientsResponded e p)
    unfold enterSoporificClientsResponded
    rw [hexit]
    dsimp only
    split
    · refine hmoved.note (neutral_inner k rfl) (fun heq => nomatch heq) fun htaken => ?_
      cases k with
      | shutdown => exact absurd htaken (by simp [Preparation.taken])
      | sleep => exact .inr (hall rfl)
    · exact hmoved.enterOk_responded (j := .sleep) rfl

theorem Tracks.enterNotified (e : PowerEnv) (h : Tracks k u p) (j : Preparation) (hstate : p.state = .ok) :
    Tracks k u (appPowerSetState e j.waiting p) := by
  have hexit : exitState p = p := by
    unfold exitState
    rw [hstate]
  have hwait : p.state ≠ k.waiting := by rw [hstate]; cases k <;> decide
  have hresp : p.state ≠ k.responded := by rw [hstate]; cases k <;> decide
  have hnone : p.clients.isEmpty = true → AllAnswered k { p with state := j.waiting } := by
    intro hempty t hreg
    obtain ⟨c, hc, _⟩ := (hasTask_eq_true p).mp ((h.reg t).mp hreg).2
    rw [List.isEmpty_iff.mp hempty] at hc
    exact absurd hc List.not_mem_nil
  have hopen : Tracks k u (appPowerSetFlagInAllClients j.flag
      (taskListMessageSendId j.prepareInd { p with state := j.waiting })) := by
    by_cases hk : j = k
    · subst hk
      exact h.asks hwait hresp
    · have hask : j.prepareInd ≠ k.prepareInd := by cases k <;> cases j <;> first | decide | exact absurd rfl hk
      have hmoved : Tracks k u { p with state := j.waiting } := by
        refine h.setState hwait hresp ?_ ?_
        · cases k <;> cases j <;> first | decide | exact absurd rfl hk
        · cases j <;> decide
      refine (hmoved.sends hask (Preparation.prepareInd_ne_cancelledInd j k)).mapClients (fun _ => rfl) fun _ c _ _ => ?_
      refine Function.update_of_ne ?_ true c.2
      cases k <;> cases j <;> first | decide | exact absurd rfl hk
  have hempty : p.clients.isEmpty = true → Tracks k u { p with state := j.waiting } := by
    intro hempty
    have hnil := List.isEmpty_iff.mp hempty
    have hsame : appPowerSetFlagInAllClients j.flag
        (taskListMessageSendId j.prepareInd { p with state := j.waiting }) = { p with state := j.waiting } := by
      unfold appPowerSetFlagInAllClients taskListMessageSendId
      dsimp only
      rw [hnil]
      rfl
    exact hsame ▸ hopen
  cases j with
  | shutdown =>
    change Tracks k u (enterTerminatingClientsNotified e p)
    unfold enterTerminatingClientsNotified
    rw [hexit]
    dsimp only
    split
    · rename_i hnil
      exact (hempty hnil).enterResponded e (j := .shutdown) rfl fun _ => hnone hnil
    · exact hopen.sends (by cases k <;> decide) (by cases k <;> decide)
  | sleep =>
    change Tracks k u (enterSoporificClientsNotified e p)
    unfold enterSoporificClientsNotified
    rw [hexit]
    dsimp only
    split
    · rename_i hnil
      exact (hempty hnil).enterResponded e (j := .sleep) rfl fun _ => hnone hnil
    · exact hopen

end Moves

end SmartHelmet.Power
