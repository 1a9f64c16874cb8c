import LineScope.Parser.Calls

/-!
# One outcome for every language

A registry and its callers as a step system. `trace options σ n` is the state after the first `n` acts
of an arbitrary sequence `σ`, starting from a new registry that nobody has called. An act is something
that happens to a call (it is made, starts its initializer, ends it with any handle or error, takes what
is kept, is dropped) or a look at the kept handle. An act that cannot happen where it stands changes
nothing, so the sequences are all interleavings of any number of callers over all languages.

Of the cell that holds a language's outcome only this is built into the acts: an initializer starts for a
waiting call while nothing is kept and no other initializer of the language runs, its result is kept when
it ends, and a call that is dropped on the way leaves the place to others.

`Inv` is what every act keeps: a language has at most one running initializer, it runs only while nothing
is kept, and every answer given so far is that of the kept outcome.

Results:
* `kept_iff`: something is kept for a language exactly if an initializer of it has completed.
* `trace_kept`: what is kept never changes.
* `one_outcome`: at most one initializer of a language completes and none starts later, and every
  caller and every look get the one outcome it left.
-/
namespace LineScope

/-! ## The registry -/

namespace Registry

/-- What a caller is told once the initializer gave `given`: the handle under the number `id`, or an
initialization error with the error's own reason if it was one, and its full text otherwise. -/
def told (id : Nat) : Except Error Handle → Except Error Registered
  | .ok handle => .ok ⟨id, handle⟩
  | .error ⟨.initialization, reason⟩ => .error ⟨.initialization, reason⟩
  | .error e => .error ⟨.initialization, e.message⟩

theorem answer_complete (r : Registry) (language : Language) (given : Except Error Handle) :
    (r.complete language given).2.answer = told r.made given := by
  cases given with
  | ok handle => rfl
  | error e =>
    obtain ⟨category, reason⟩ := e
    cases category <;> rfl

theorem kept_complete (r : Registry) (language : Language) (given : Except Error Handle)
    (l : Language) :
    (r.complete language given).1.kept l =
      if l = language then some (r.complete language given).2 else r.kept l := by
  cases given <;> rfl

theorem get_of_kept {r : Registry} {language : Language} {outcome : Outcome}
    (h : r.kept language = some outcome) : r.get language = outcome.answer := by
  rw [get, h]

theorem answer_ne_invalidInput (outcome : Outcome) (reason : String) :
    outcome.answer ≠ .error ⟨.invalidInput, reason⟩ := by
  cases outcome <;> simp [Outcome.answer]

/-- Handles are numbered in the order in which they are made, so no two languages share one. -/
structure Numbered (r : Registry) : Prop where
  lt {l : Language} {h : Registered} (hk : r.kept l = some (.ok h)) : h.id < r.made
  inj {l l' : Language} {h h' : Registered} (hk : r.kept l = some (.ok h))
    (hk' : r.kept l' = some (.ok h')) (hid : h.id = h'.id) : l = l'

theorem numbered_new (options : ParseOptions) : (Registry.new options).Numbered where
  lt hk := by cases hk
  inj hk := by cases hk

theorem numbered_complete {r : Registry} (hr : r.Numbered) (language : Language)
    (given : Except Error Handle) : (r.complete language given).1.Numbered := by
  -- what is kept afterwards is the new handle under the next number, or was kept before
  have hkept : ∀ {l h}, (r.complete language given).1.kept l = some (.ok h) →
      (l = language ∧ h.id = r.made ∧ (r.complete language given).1.made = r.made + 1) ∨
        r.kept l = some (.ok h) ∧ r.made ≤ (r.complete language given).1.made := by
    intro l h hk
    rw [kept_complete] at hk
    cases given with
    | ok handle =>
      split at hk
      · cases hk; exact Or.inl ⟨‹_›, rfl, rfl⟩
      · exact Or.inr ⟨hk, Nat.le_succ _⟩
    | error e =>
      split at hk
      · cases hk
      · exact Or.inr ⟨hk, Nat.le_refl _⟩
  constructor
  · intro l h hk
    obtain ⟨-, hid, hmade⟩ | ⟨hk, hle⟩ := hkept hk
    · omega
    · exact Nat.lt_of_lt_of_le (hr.lt hk) hle
  · intro l l' h h' hk hk' hid
    obtain ⟨hl, hid', -⟩ | ⟨hk, -⟩ := hkept hk
    · obtain ⟨hl', -, -⟩ | ⟨hk', -⟩ := hkept hk'
      · rw [hl, hl']
      · have := hr.lt hk'; omega
    · obtain ⟨-, hid', -⟩ | ⟨hk', -⟩ := hkept hk'
      · have := hr.lt hk; omega
      · exact hr.inj hk hk' hid

theorem get_invalidInput_iff (r : Registry) (language : Language) :
    (∃ reason, r.get language = .error ⟨.invalidInput, reason⟩) ↔ r.kept language = none := by
  constructor
  · rintro ⟨reason, h⟩
    cases hk : r.kept language with
    | none => rfl
    | some outcome =>
      rw [get_of_kept hk] at h
      exact absurd h (answer_ne_invalidInput outcome reason)
  · intro h
    exact ⟨_, by rw [get, h, tooEarly]⟩

end Registry

namespace Calls

/-! ## One event -/

/-- The events that can happen and what they lead to, one case an event. -/
inductive Steps (s : Calls) : Event → Calls → Prop where
  | ask (language : Language) :
      Steps s (.ask language) { s with calls := s.calls ++ [⟨language, .waiting⟩] }
  | start {call : Nat} {c : Call} (hc : s.calls[call]? = some c) (hp : c.phase = .waiting)
      (hk : s.registry.kept c.language = none) (hb : s.busy c.language = false) :
      Steps s (.start call) (s.put call c .initializing)
  | finish {call : Nat} {c : Call} (given : Except Error Handle) (hc : s.calls[call]? = some c)
      (hp : c.phase = .initializing) :
      Steps s (.finish call given)
        ⟨(s.registry.complete c.language given).1,
          s.calls.set call ⟨c.language, .returned (Registry.told s.registry.made given)⟩⟩
  | wake {call : Nat} {c : Call} {outcome : Outcome} (hc : s.calls[call]? = some c)
      (hp : c.phase = .waiting) (hk : s.registry.kept c.language = some outcome) :
      Steps s (.wake call) (s.put call c (.returned outcome.answer))
  | drop {call : Nat} {c : Call} (hc : s.calls[call]? = some c)
      (hp : c.phase = .waiting ∨ c.phase = .initializing) :
      Steps s (.drop call) (s.put call c .dropped)

theorem steps_of_step? {s s' : Calls} {e : Event} (h : s.step? e = some s') : Steps s e s' := by
  cases e with
  | ask language => cases h; exact .ask language
  | start call =>
    simp only [step?] at h
    split at h
    · rename_i c hc
      split at h
      · cases h; exact .start hc ‹_› ‹_› ‹_›
      · cases h
    · cases h
  | finish call given =>
    simp only [step?] at h
    split at h
    · rename_i c hc
      split at h
      · cases h
        rw [Registry.answer_complete]
        exact .finish given hc ‹_›
      · cases h
    · cases h
  | wake call =>
    simp only [step?] at h
    split at h
    · rename_i c hc
      split at h
      · cases h; exact .wake hc ‹_› ‹_›
      · cases h
    · cases h
  | drop call =>
    simp only [step?] at h
    split at h
    · rename_i c hc
      split at h
      · cases h; exact .drop hc (Or.inl ‹_›)
      · cases h; exact .drop hc (Or.inr ‹_›)
      · cases h
    · cases h

/-! ## The invariant -/

/-- What every event keeps. -/
structure Inv (s : Calls) : Prop where
  /-- A language has at most one running initializer. -/
  alone {i j : Nat} {c d : Call} (hc : s.calls[i]? = some c) (hd : s.calls[j]? = some d)
    (hpc : c.phase = .initializing) (hpd : d.phase = .initializing)
    (hl : c.language = d.language) : i = j
  /-- An initializer runs only while nothing is kept. -/
  unset {c : Call} (hc : c ∈ s.calls) (hp : c.phase = .initializing) :
    s.registry.kept c.language = none
  /-- An answer is that of the kept outcome. -/
  answered {c : Call} {answer : Except Error Registered} (hc : c ∈ s.calls)
    (hp : c.phase = .returned answer) :
    ∃ outcome, s.registry.kept c.language = some outcome ∧ answer = outcome.answer
  numbered : s.registry.Numbered

theorem inv_new (options : ParseOptions) : Inv ⟨.new options, []⟩ where
  alone hc := by simp at hc
  unset hc := by cases hc
  answered hc := by cases hc
  numbered := Registry.numbered_new options

theorem getElem?_set_some {calls : List Call} {call j : Nat} {c d : Call}
    (h : (calls.set call c)[j]? = some d) : j = call ∧ d = c ∨ j ≠ call ∧ calls[j]? = some d := by
  rw [List.getElem?_set] at h
  split at h
  · rename_i hj
    split at h
    · cases h; exact Or.inl ⟨hj.symm, rfl⟩
    · cases h
  · rename_i hj
    exact Or.inr ⟨fun he => hj he.symm, h⟩

theorem getElem?_concat_some {calls : List Call} {j : Nat} {c d : Call}
    (h : (calls ++ [c])[j]? = some d) : calls[j]? = some d ∨ d = c := by
  rw [List.getElem?_append] at h
  split at h
  · exact Or.inl h
  · exact Or.inr (List.mem_singleton.mp (List.mem_of_getElem? h))

theorem not_initializing {s : Calls} {language : Language} (hb : s.busy language = false) {c : Call}
    (hc : c ∈ s.calls) (hl : c.language = language) : c.phase ≠ .initializing := by
  intro hp
  have hnot := List.any_eq_false.mp hb c hc
  simp [Call.makes, hl, hp] at hnot

/-- Bringing a call into another phase keeps the invariant, if the phase is one the call may be in. -/
theorem inv_put {s : Calls} (hi : Inv s) {call : Nat} {c : Call} {phase : Phase}
    (hrun : phase = .initializing →
      s.registry.kept c.language = none ∧ s.busy c.language = false)
    (hans : ∀ answer, phase = .returned answer →
      ∃ outcome, s.registry.kept c.language = some outcome ∧ answer = outcome.answer) :
    Inv (s.put call c phase) where
  alone := by
    intro i j d e hd he hpd hpe hl
    obtain ⟨hi', rfl⟩ | ⟨-, hd⟩ := getElem?_set_some hd
    · obtain ⟨hj', -⟩ | ⟨-, he⟩ := getElem?_set_some he
      · rw [hi', hj']
      · exact absurd hpe (not_initializing (hrun hpd).2 (List.mem_of_getElem? he) hl.symm)
    · obtain ⟨-, rfl⟩ | ⟨-, he⟩ := getElem?_set_some he
      · exact absurd hpd (not_initializing (hrun hpe).2 (List.mem_of_getElem? hd) hl)
      · exact hi.alone hd he hpd hpe hl
  unset := by
    intro d hd hp
    rcases List.mem_or_eq_of_mem_set hd with hd | rfl
    · exact hi.unset hd hp
    · exact (hrun hp).1
  answered := by
    intro d answer hd hp
    rcases List.mem_or_eq_of_mem_set hd with hd | rfl
    · exact hi.answered hd hp
    · exact hans answer hp
  numbered := hi.numbered

theorem inv_ask {s : Calls} (hi : Inv s) (language : Language) :
    Inv { s with calls := s.calls ++ [⟨language, .waiting⟩] } where
  alone := by
    intro i j c d hc hd hpc hpd hl
    obtain hc | rfl := getElem?_concat_some hc
    · obtain hd | rfl := getElem?_concat_some hd
      · exact hi.alone hc hd hpc hpd hl
      · cases hpd
    · cases hpc
  unset := by
    intro c hc hp
    rcases List.mem_append.mp hc with hc | hc
    · exact hi.unset hc hp
    · cases List.mem_singleton.mp hc; cases hp
  answered := by
    intro c answer hc hp
    rcases List.mem_append.mp hc with hc | hc
    · exact hi.answered hc hp
    · cases List.mem_singleton.mp hc; cases hp
  numbered := hi.numbered

/-- The end of an initializer keeps the invariant: no other one of the language was running, and nobody
had been answered yet. -/
theorem inv_finish {s : Calls} (hi : Inv s) {call : Nat} {c : Call} (given : Except Error Handle)
    (hc : s.calls[call]? = some c) (hp : c.phase = .initializing) :
    Inv ⟨(s.registry.complete c.language given).1,
      s.calls.set call ⟨c.language, .returned (Registry.told s.registry.made given)⟩⟩ := by
  have hmem := List.mem_of_getElem? hc
  have hunset := hi.unset hmem hp
  refine ⟨?_, ?_, ?_, Registry.numbered_complete hi.numbered c.language given⟩
  · intro i j d e hd he hpd hpe hl
    obtain ⟨-, rfl⟩ | ⟨-, hd⟩ := getElem?_set_some hd
    · cases hpd
    · obtain ⟨-, rfl⟩ | ⟨-, he⟩ := getElem?_set_some he
      · cases hpe
      · exact hi.alone hd he hpd hpe hl
  · intro d hd hpd
    obtain ⟨j, hj⟩ := List.mem_iff_getElem?.mp hd
    obtain ⟨-, rfl⟩ | ⟨hne, hj⟩ := getElem?_set_some hj
    · cases hpd
    · have hl : d.language ≠ c.language := fun hl => hne (hi.alone hj hc hpd hp hl)
      simp only [Registry.kept_complete, if_neg hl]
      exact hi.unset (List.mem_of_getElem? hj) hpd
  · intro d answer hd hpd
    simp only [Registry.kept_complete]
    rcases List.mem_or_eq_of_mem_set hd with hd | rfl
    · obtain ⟨outcome, hk, ha⟩ := hi.answered hd hpd
      have hl : d.language ≠ c.language := by
        intro hl
        rw [hl, hunset] at hk
        cases hk
      exact ⟨outcome, by rw [if_neg hl]; exact hk, ha⟩
    · cases hpd
      exact ⟨_, if_pos rfl, (Registry.answer_complete _ _ _).symm⟩

theorem inv_steps {s s' : Calls} {e : Event} (hi : Inv s) (h : Steps s e s') : Inv s' := by
  cases h with
  | ask language => exact inv_ask hi language
  | start _ _ hk hb =>
    exact inv_put hi (fun _ => ⟨hk, hb⟩) fun _ ha => by cases ha
  | finish given hc hp => exact inv_finish hi given hc hp
  | wake _ _ hk =>
    refine inv_put hi (fun hr => by cases hr) fun _ ha => ?_
    cases ha
    exact ⟨_, hk, rfl⟩
  | drop => exact inv_put hi (fun hr => by cases hr) fun _ ha => by cases ha

/-! ## What is kept -/

/-- `e` ends the initializer of a call for the language, which gave `given`. -/
def Completes (s : Calls) (language : Language) (given : Except Error Handle) (e : Event) : Prop :=
  ∃ call c, e = .finish call given ∧ s.calls[call]? = some c ∧ c.language = language ∧
    c.phase = .initializing

def Starts (s : Calls) (language : Language) (e : Event) : Prop :=
  ∃ call c, e = .start call ∧ s.calls[call]? = some c ∧ c.language = language ∧
    (s.step? e).isSome

theorem kept_steps {s s' : Calls} {e : Event} (h : Steps s e s') (language : Language) :
    s'.registry.kept language = s.registry.kept language ∨
      ∃ given, Completes s language given e ∧
        s'.registry.kept language = some (s.registry.complete language given).2 := by
  cases h with
  | @finish call c given hc hp =>
    simp only [Registry.kept_complete]
    by_cases hl : language = c.language
    · subst hl
      exact Or.inr ⟨given, ⟨call, c, rfl, hc, rfl, hp⟩, if_pos rfl⟩
    · exact Or.inl (if_neg hl)
  | _ => exact Or.inl rfl

theorem step?_completes {s : Calls} {language : Language} {given : Except Error Handle} {e : Event}
    (h : Completes s language given e) :
    ∃ s', s.step? e = some s' ∧
      s'.registry.kept language = some (s.registry.complete language given).2 := by
  obtain ⟨call, c, rfl, hc, rfl, hp⟩ := h
  have hs : s.step? (.finish call given) = some
      { s.put call c (.returned (s.registry.complete c.language given).2.answer) with
        registry := (s.registry.complete c.language given).1 } := by
    simp only [step?, hc, hp]
  exact ⟨_, hs, by rw [Registry.kept_complete, if_pos rfl]⟩

theorem unset_of_starts {s : Calls} {language : Language} {e : Event} (h : Starts s language e) :
    s.registry.kept language = none := by
  obtain ⟨call, c, rfl, hc, rfl, hsome⟩ := h
  obtain ⟨s', hs'⟩ := Option.isSome_iff_exists.mp hsome
  cases steps_of_step? hs' with
  | start hc' _ hk _ =>
    rw [hc] at hc'
    cases hc'
    exact hk

/-! ## Runs -/

inductive Act where
  | event (e : Event)
  | get (language : Language)

/-- The state after an act, and what a look finds. -/
def act (s : Calls) : Act → Calls × Option (Except Error Registered)
  | .event e => (s.step e, none)
  | .get language => (s, some (s.registry.get language))

/-- The state after the first `n` acts on a new registry without calls. -/
def trace (options : ParseOptions) (σ : Nat → Act) : Nat → Calls
  | 0 => ⟨.new options, []⟩
  | n + 1 => ((trace options σ n).act (σ n)).1

section Runs

variable (options : ParseOptions) (σ : Nat → Act)

/-- The act at time `n` ends an initializer of the language, which gave `given`. -/
def CompletesAt (language : Language) (given : Except Error Handle) (n : Nat) : Prop :=
  ∃ e, σ n = .event e ∧ Completes (trace options σ n) language given e

def StartsAt (language : Language) (n : Nat) : Prop :=
  ∃ e, σ n = .event e ∧ Starts (trace options σ n) language e

theorem trace_event {n : Nat} {e : Event} (h : σ n = .event e) :
    trace options σ (n + 1) = (trace options σ n).step e := by
  rw [trace, h]
  rfl

theorem trace_get {n : Nat} {language : Language} (h : σ n = .get language) :
    trace options σ (n + 1) = trace options σ n := by
  rw [trace, h]
  rfl

/-- An act changes nothing, or is an event that can happen. -/
theorem trace_succ (n : Nat) :
    trace options σ (n + 1) = trace options σ n ∨
      ∃ e, σ n = .event e ∧ Steps (trace options σ n) e (trace options σ (n + 1)) := by
  cases hσ : σ n with
  | get language => exact Or.inl (trace_get options σ hσ)
  | event e =>
    rw [trace_event options σ hσ, step]
    cases hs : (trace options σ n).step? e with
    | none => exact Or.inl rfl
    | some s' => exact Or.inr ⟨e, rfl, steps_of_step? hs⟩

theorem trace_inv : ∀ n, Inv (trace options σ n)
  | 0 => inv_new options
  | n + 1 => by
    obtain h | ⟨e, -, h⟩ := trace_succ options σ n
    · rw [h]; exact trace_inv n
    · exact inv_steps (trace_inv n) h

theorem kept_succ (language : Language) (n : Nat) :
    (trace options σ (n + 1)).registry.kept language = (trace options σ n).registry.kept language ∨
      ∃ given, CompletesAt options σ language given n ∧
        (trace options σ (n + 1)).registry.kept language =
          some ((trace options σ n).registry.complete language given).2 := by
  obtain h | ⟨e, hσ, h⟩ := trace_succ options σ n
  · rw [h]; exact Or.inl rfl
  · obtain hk | ⟨given, hc, hk⟩ := kept_steps h language
    · exact Or.inl hk
    · exact Or.inr ⟨given, ⟨e, hσ, hc⟩, hk⟩

variable {options σ} {language : Language} {given : Except Error Handle}

theorem kept_of_completesAt {n : Nat} (h : CompletesAt options σ language given n) :
    (trace options σ (n + 1)).registry.kept language =
      some ((trace options σ n).registry.complete language given).2 := by
  obtain ⟨e, hσ, hc⟩ := h
  obtain ⟨s', hs', hk⟩ := step?_completes hc
  rw [trace_event options σ hσ, step, hs']
  exact hk

theorem unset_of_completesAt {n : Nat} (h : CompletesAt options σ language given n) :
    (trace options σ n).registry.kept language = none := by
  obtain ⟨e, -, call, c, -, hc, rfl, hp⟩ := h
  exact (trace_inv options σ n).unset (List.mem_of_getElem? hc) hp

theorem trace_kept {n m : Nat} (hnm : n ≤ m) {outcome : Outcome}
    (h : (trace options σ n).registry.kept language = some outcome) :
    (trace options σ m).registry.kept language = some outcome := by
  obtain ⟨d, rfl⟩ := Nat.exists_eq_add_of_le hnm
  clear hnm
  induction d with
  | zero => exact h
  | succ d ih =>
    obtain hk | ⟨given, hc, -⟩ := kept_succ options σ language (n + d)
    · rw [← Nat.add_assoc, hk]; exact ih
    · rw [unset_of_completesAt hc] at ih
      cases ih

/-- Something is kept for a language exactly if an initializer of it has completed. -/
theorem kept_iff (language : Language) (n : Nat) :
    (∃ outcome, (trace options σ n).registry.kept language = some outcome) ↔
      ∃ i < n, ∃ given, CompletesAt options σ language given i := by
  constructor
  · rintro ⟨outcome, h⟩
    induction n with
    | zero => cases h
    | succ n ih =>
      obtain hk | ⟨given, hc, -⟩ := kept_succ options σ language n
      · obtain ⟨i, hi, hc⟩ := ih (hk.symm.trans h)
        exact ⟨i, Nat.lt_succ_of_lt hi, hc⟩
      · exact ⟨n, Nat.lt_succ_self n, given, hc⟩
  · rintro ⟨i, hi, given, hc⟩
    exact ⟨_, trace_kept hi (kept_of_completesAt hc)⟩

/-- As long as nothing is kept, no initializer has completed. -/
theorem le_of_unset {i n : Nat} (hc : CompletesAt options σ language given i)
    (h : (trace options σ n).registry.kept language = none) : n ≤ i := by
  rcases Nat.lt_or_ge i n with hlt | hle
  · rw [trace_kept hlt (kept_of_completesAt hc)] at h
    cases h
  · exact hle

theorem completesAt_unique {i j : Nat} {given' : Except Error Handle}
    (hi : CompletesAt options σ language given i) (hj : CompletesAt options σ language given' j) :
    i = j :=
  Nat.le_antisymm (le_of_unset hj (unset_of_completesAt hi))
    (le_of_unset hi (unset_of_completesAt hj))

theorem startsAt_lt {i j : Nat} (hc : CompletesAt options σ language given i)
    (hs : StartsAt options σ language j) : j < i := by
  obtain ⟨e, hσ, hs⟩ := hs
  refine Nat.lt_of_le_of_ne (le_of_unset hc (unset_of_starts hs)) ?_
  rintro rfl
  -- one act is not both a start and an end
  obtain ⟨e', hσ', call', c', rfl, -⟩ := hc
  obtain ⟨call, c, rfl, -⟩ := hs
  rw [hσ] at hσ'
  cases hσ'

/-- Every answer is that of the kept outcome, so there is one only after a completion. -/
theorem completed_of_returned {n : Nat} {c : Call} {answer : Except Error Registered}
    (hmem : c ∈ (trace options σ n).calls) (hp : c.phase = .returned answer) :
    ∃ i < n, ∃ given, CompletesAt options σ c.language given i := by
  obtain ⟨outcome, hk, -⟩ := (trace_inv options σ n).answered hmem hp
  exact (kept_iff c.language n).mp ⟨outcome, hk⟩

end Runs

/-! ## The outcome -/

/-- The outcome is kept for the language, and everyone who asked or asks for it is told it. -/
structure Settled (s : Calls) (language : Language) (outcome : Outcome) : Prop where
  kept : s.registry.kept language = some outcome
  got : s.registry.get language = outcome.answer
  told {c : Call} {answer : Except Error Registered} (hc : c ∈ s.calls)
    (hl : c.language = language) (hp : c.phase = .returned answer) : answer = outcome.answer

theorem settled_of_kept {s : Calls} (hi : Inv s) {language : Language} {outcome : Outcome}
    (h : s.registry.kept language = some outcome) : Settled s language outcome where
  kept := h
  got := Registry.get_of_kept h
  told := by
    intro c answer hc hl hp
    obtain ⟨outcome', hk, ha⟩ := hi.answered hc hp
    rw [hl, h] at hk
    cases hk
    exact ha

/-- **A language has one outcome.** At most one initializer of it completes and none starts afterwards.
From then on its outcome is kept, and is what every call that has returned and every look gives: the
handle under one number, which no other language's handle has, or the initialization error that the
initializer's error stands for. As long as none has completed no call returns and every look is a bad
request. A look changes nothing. -/
theorem one_outcome (options : ParseOptions) (σ : Nat → Act) (language : Language) :
    (∀ i j given given', CompletesAt options σ language given i →
      CompletesAt options σ language given' j → i = j) ∧
    (∀ i j given, CompletesAt options σ language given i → StartsAt options σ language j → j < i) ∧
    (∀ i given, CompletesAt options σ language given i →
      ∃ outcome : Outcome, (∃ id, outcome.answer = Registry.told id given) ∧
        ∀ n, i < n → Settled (trace options σ n) language outcome) ∧
    (∀ n l h h', (trace options σ n).registry.kept language = some (.ok h) →
      (trace options σ n).registry.kept l = some (.ok h') → h.id = h'.id → language = l) ∧
    (∀ n, ∀ c ∈ (trace options σ n).calls, c.language = language → ∀ answer,
      c.phase = .returned answer → ∃ i < n, ∃ given, CompletesAt options σ language given i) ∧
    (∀ n, (∃ reason, (trace options σ n).registry.get language = .error ⟨.invalidInput, reason⟩) ↔
      ¬ ∃ i < n, ∃ given, CompletesAt options σ language given i) ∧
    (∀ n, σ n = .get language → trace options σ (n + 1) = trace options σ n ∧
      ((trace options σ n).act (σ n)).2 = some ((trace options σ n).registry.get language)) := by
  refine ⟨fun _ _ _ _ => completesAt_unique, fun _ _ _ => startsAt_lt, ?_, ?_, ?_, ?_, ?_⟩
  · intro i given hc
    refine ⟨_, ⟨_, Registry.answer_complete (trace options σ i).registry language given⟩, ?_⟩
    intro n hn
    exact settled_of_kept (trace_inv options σ n) (trace_kept hn (kept_of_completesAt hc))
  · intro n l h h'
    exact (trace_inv options σ n).numbered.inj
  · rintro n c hc rfl answer hp
    exact completed_of_returned hc hp
  · intro n
    rw [Registry.get_invalidInput_iff, ← kept_iff]
    cases (trace options σ n).registry.kept language <;> simp
  · intro n hσ
    refine ⟨trace_get options σ hσ, ?_⟩
    rw [hσ]
    rfl

/-- Two callers ask for the same handle. The first is dropped while it makes the handle, and the second
fails to read the grammar; a third comes too late to try again. -/
def grammarUnreadable (n : Nat) : Act :=
  let acts : List Act :=
    [.event (.ask .python), .event (.ask .python), .event (.start 0), .event (.drop 0),
      .event (.start 1), .event (.finish 1 (.error ⟨.io, "denied"⟩)), .event (.ask .python),
      .event (.wake 2)]
  acts[n]?.getD (.get .python)

theorem one_outcome_grammarUnreadable :
    CompletesAt ⟨none⟩ grammarUnreadable .python (.error ⟨.io, "denied"⟩) 5 ∧
      ∀ n, 5 < n → (trace ⟨none⟩ grammarUnreadable n).registry.get .python =
        .error ⟨.initialization, "I/O error: denied"⟩ := by
  have hc : CompletesAt ⟨none⟩ grammarUnreadable .python (.error ⟨.io, "denied"⟩) 5 :=
    ⟨_, rfl, 1, _, rfl, rfl, rfl, rfl⟩
  obtain ⟨-, -, houtcome, -⟩ := one_outcome ⟨none⟩ grammarUnreadable .python
  obtain ⟨outcome, ⟨id, htold⟩, hsettled⟩ := houtcome 5 _ hc
  refine ⟨hc, fun n hn => ?_⟩
  rw [(hsettled n hn).got, htold]
  rfl

end Calls

end LineScope
