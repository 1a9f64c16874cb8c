import LineScope.Grammar.Bundled
import LineScope.Proofs.Parser.Calls
import LineScope.Proofs.Parser.Session
import Mathlib.Logic.Equiv.Basic

/-!
# Languages do not interfere

A registry serves requests for several languages one after the other. Each request names a language and
asks for its handle, looks for it, or has a text parsed by it. This module compares two runs: the whole
sequence of requests, and the requests for one language alone on a registry of their own. Everything the
second run answers is what the first run answered, but for the numbers of handles, which count the
handles made for all languages.

The argument rests on two facts. A parse leaves its handle as it found it, so the registry changes only
where a handle is made (`Sound`, `kept_serve`). And a reply can be read off the registry after the
request: it depends on what is kept for the language, and on nothing that other languages have done
(`reply_serve`).

Results:
* `transcript_alike`: two runs that keep the same for a language, but for the number, go on to answer the
  same.
* `languages_apart`: the requests for a language are answered as they are alone, handles of different
  languages differ, and a handle has the language it was asked for and the registry's options.
-/
namespace LineScope

/-- A handle bound to the language and the options, unless there is a fault with the grammar. -/
def Initializer.orFault (fault : Option Error) : Initializer := fun language options =>
  match fault with
  | none => .ok (.make language options)
  | some e => .error e

def Registered.rename (f : Nat → Nat) (h : Registered) : Registered := { h with id := f h.id }

namespace Registry

/-! ## Requests -/

/-- What is asked for. A request for the handle brings along the fault that making it now would meet, and
a request to parse brings along the clock. -/
inductive Ask where
  | handle (fault : Option Error)
  | get
  | check (clock : Clock) (text : String)
  | context (clock : Clock) (text : String) (range : LineRange)

structure Request where
  language : Language
  ask : Ask

inductive Reply where
  | handed (outcome : Except Error Registered)
  | checked (outcome : Except Error Validity)
  | enclosed (outcome : Result (Option Summary))

def Reply.rename (f : Nat → Nat) : Reply → Reply
  | .handed outcome => .handed (outcome.map (Registered.rename f))
  | .checked outcome => .checked outcome
  | .enclosed outcome => .enclosed outcome

/-- Serves one request: the registry afterwards and the reply. -/
def serve (engine : Engine) (r : Registry) (q : Request) : Registry × Reply :=
  match q.ask with
  | .handle fault =>
    let (r', outcome) := r.handle (.orFault fault) q.language
    (r', .handed outcome)
  | .get => (r, .handed (r.get q.language))
  | .check clock text =>
    let (r', outcome) := r.check engine clock q.language text
    (r', .checked outcome)
  | .context clock text range =>
    let (r', outcome) := r.context engine clock q.language text range
    (r', .enclosed outcome)

def transcript (engine : Engine) (r : Registry) : List Request → List (Request × Reply)
  | [] => []
  | q :: qs =>
    let (r', reply) := r.serve engine q
    (q, reply) :: transcript engine r' qs

def after (engine : Engine) (r : Registry) (qs : List Request) : Registry :=
  qs.foldl (fun r q => (r.serve engine q).1) r

/-! ## What is kept -/

theorem kept_of_get {r : Registry} {language : Language} {h : Registered}
    (hget : r.get language = .ok h) : r.kept language = some (.ok h) := by
  unfold get at hget
  cases hk : r.kept language with
  | none => simp [hk] at hget
  | some outcome =>
    cases outcome with
    | error reason => simp [hk, Outcome.answer] at hget
    | ok h' => simpa [hk, Outcome.answer] using hget

theorem keep_kept {r : Registry} {language : Language} {outcome : Outcome}
    (h : r.kept language = some outcome) : r.keep language outcome = r := by
  unfold keep
  congr 1
  funext l
  split
  · rename_i hl
    rw [hl, h]
  · rfl

/-- What holds of a registry at all times: its options are those it was made with, and the handles it
keeps are numbered, fresh and bound to their languages and to the options. -/
structure Sound (options : ParseOptions) (r : Registry) : Prop where
  options_eq : r.options = options
  bound {l : Language} {h : Registered} (hk : r.kept l = some (.ok h)) : h.handle = .make l options
  numbered : r.Numbered

section Serve

variable {engine : Engine} {options : ParseOptions} {r r' : Registry} {language : Language}

theorem sound_new (options : ParseOptions) : (Registry.new options).Sound options where
  options_eq := rfl
  bound hk := by cases hk
  numbered := numbered_new options

theorem options_complete (r : Registry) (language : Language) (given : Except Error Handle) :
    (r.complete language given).1.options = r.options := by
  cases given <;> rfl

theorem sound_complete (hr : r.Sound options) (fault : Option Error) :
    (r.complete language (Initializer.orFault fault language r.options)).1.Sound options where
  options_eq := by rw [options_complete, hr.options_eq]
  bound := by
    intro l h hk
    rw [kept_complete] at hk
    split at hk
    · rename_i hl
      cases fault with
      | none =>
        cases hk
        rw [hl, hr.options_eq]
      | some e => cases hk
    · exact hr.bound hk
  numbered := numbered_complete hr.numbered language _

/-- A kept handle is new, and keeping a new one in its place changes nothing. -/
theorem keep_found (hr : r.Sound options) {found : Registered} (hget : r.get language = .ok found) :
    found.handle = .make language options ∧ ∀ handle, handle = .make language options →
      r.keep language (.ok { found with handle }) = r := by
  have hk := kept_of_get hget
  have hbound := hr.bound hk
  refine ⟨hbound, fun handle hnew => keep_kept ?_⟩
  rw [hk, hnew, ← hbound]

theorem check_of_sound (hr : r.Sound options) (clock : Clock) (text : String) :
    r.check engine clock language text =
      (r, (r.get language).map fun _ =>
        ((Handle.make language options).check engine (clock.verdict language options text) text).2) := by
  unfold check
  cases hget : r.get language with
  | error e => rfl
  | ok found =>
    obtain ⟨hbound, hkeep⟩ := keep_found hr hget
    have hsame : ((Handle.make language options).check engine
        (clock.verdict language options text) text).1 = .make language options :=
      Handle.parse_handle engine _ _ text
    simp only [hbound]
    exact Prod.ext (hkeep _ hsame) rfl

theorem context_of_sound (hr : r.Sound options) (clock : Clock) (text : String) (range : LineRange) :
    r.context engine clock language text range =
      (r, match r.get language with
        | .error e => .error (.reported e)
        | .ok _ => ((Handle.make language options).context engine
            (clock.verdict language options text) text range).2) := by
  unfold context
  cases hget : r.get language with
  | error e => rfl
  | ok found =>
    obtain ⟨hbound, hkeep⟩ := keep_found hr hget
    have hsame : ((Handle.make language options).context engine
        (clock.verdict language options text) text range).1 = .make language options :=
      Handle.parse_handle engine _ _ text
    simp only [hbound]
    exact Prod.ext (hkeep _ hsame) rfl

/-! ## One request -/

/-- What one request can do to the registry: a first request for a handle makes it, and every other
request changes nothing. -/
theorem serve_cases (engine : Engine) (hr : r.Sound options) (q : Request) :
    ((r.serve engine q).1 = r ∧ ∀ fault, q.ask = .handle fault → r.kept q.language ≠ none) ∨
      ∃ fault, q.ask = .handle fault ∧ r.kept q.language = none ∧
        (r.serve engine q).1 =
          (r.complete q.language (Initializer.orFault fault q.language r.options)).1 := by
  obtain ⟨language, ask⟩ := q
  cases ask with
  | handle fault =>
    cases hk : r.kept language with
    | none =>
      right
      refine ⟨fault, rfl, rfl, ?_⟩
      simp only [serve, handle, hk]
    | some outcome =>
      left
      refine ⟨?_, fun _ _ => by simp⟩
      simp only [serve, handle, hk]
  | get => exact Or.inl ⟨rfl, fun _ h => by cases h⟩
  | check clock text =>
    left
    refine ⟨?_, fun _ h => by cases h⟩
    simp only [serve, check_of_sound hr]
  | context clock text range =>
    left
    refine ⟨?_, fun _ h => by cases h⟩
    simp only [serve, context_of_sound hr]

theorem sound_serve (hr : r.Sound options) (q : Request) :
    (r.serve engine q).1.Sound options := by
  rcases serve_cases engine hr q with ⟨hsame, -⟩ | ⟨fault, -, -, hmade⟩
  · rw [hsame]; exact hr
  · rw [hmade]; exact sound_complete hr fault

theorem kept_serve_other (engine : Engine) (hr : r.Sound options) {q : Request} (hl : language ≠ q.language) :
    (r.serve engine q).1.kept language = r.kept language := by
  rcases serve_cases engine hr q with ⟨hsame, -⟩ | ⟨fault, -, -, hmade⟩
  · rw [hsame]
  · rw [hmade, kept_complete, if_neg hl]

theorem kept_serve (hr : r.Sound options) (q : Request) {outcome : Outcome}
    (hk : r.kept language = some outcome) : (r.serve engine q).1.kept language = some outcome := by
  rcases serve_cases engine hr q with ⟨hsame, -⟩ | ⟨fault, -, hnone, -⟩
  · rw [hsame, hk]
  · have hl : language ≠ q.language := by
      rintro rfl
      rw [hk] at hnone
      cases hnone
    rw [kept_serve_other engine hr hl, hk]

/-- The reply to a request, read off what a look at the registry gives. -/
def Request.reading (engine : Engine) (options : ParseOptions) (q : Request)
    (got : Except Error Registered) : Reply :=
  let fresh := Handle.make q.language options
  match q.ask with
  | .handle _ => .handed got
  | .get => .handed got
  | .check clock text =>
    .checked (got.map fun _ => (fresh.check engine (clock.verdict q.language options text) text).2)
  | .context clock text range =>
    .enclosed (match got with
      | .error e => .error (.reported e)
      | .ok _ => (fresh.context engine (clock.verdict q.language options text) text range).2)

theorem rename_reading (f : Nat → Nat) (q : Request) (got : Except Error Registered) :
    (q.reading engine options got).rename f =
      q.reading engine options (got.map (Registered.rename f)) := by
  obtain ⟨language, ask⟩ := q
  cases ask <;> cases got <;> rfl

theorem got_of_reading {q : Request} {got : Except Error Registered} {h : Registered}
    (hq : q.reading engine options got = .handed (.ok h)) : got = .ok h := by
  obtain ⟨language, ask⟩ := q
  cases ask with
  | handle fault => exact Reply.handed.inj hq
  | get => exact Reply.handed.inj hq
  | check clock text => cases hq
  | context clock text range => cases hq

theorem handle_eq_get (initializer : Initializer) (r : Registry) (language : Language) :
    (r.handle initializer language).2 = (r.handle initializer language).1.get language := by
  unfold handle
  cases hk : r.kept language with
  | some outcome => exact (get_of_kept hk).symm
  | none =>
    refine (get_of_kept ?_).symm
    rw [kept_complete, if_pos rfl]

/-- **A reply** is what the registry after the request says of the language. -/
theorem reply_serve (hr : r.Sound options) (q : Request) :
    (r.serve engine q).2 =
      q.reading engine options ((r.serve engine q).1.get q.language) := by
  obtain ⟨language, ask⟩ := q
  cases ask with
  | handle fault => exact congrArg Reply.handed (handle_eq_get _ r language)
  | get => rfl
  | check clock text => simp only [serve, check_of_sound hr]; rfl
  | context clock text range => simp only [serve, context_of_sound hr]; rfl

end Serve

/-! ## Two runs -/

theorem transcript_cons (engine : Engine) (r : Registry) (q : Request) (qs : List Request) :
    transcript engine r (q :: qs) =
      (q, (r.serve engine q).2) :: transcript engine (r.serve engine q).1 qs := rfl

/-- The second outcome is the first with handles renamed. -/
def Matches (f : Nat → Nat) (kept kept' : Option Outcome) : Prop :=
  kept.map (Except.map (Registered.rename f)) = kept'

section Runs

variable {engine : Engine} {options : ParseOptions} {r r' : Registry} {language : Language}

theorem get_of_matches {f : Nat → Nat} (h : Matches f (r.kept language) (r'.kept language)) :
    (r.get language).map (Registered.rename f) = r'.get language := by
  unfold get
  rw [← h]
  cases r.kept language with
  | none => rfl
  | some outcome => cases outcome <;> rfl

/-- A request for the language, served by registries that keep the same for it, leaves them keeping the
same. If it makes the handle, it makes it in both, under the next number of each. -/
theorem alike_serve (hr : r.Sound options) (hr' : r'.Sound options) (q : Request)
    (h : ∃ f : Equiv.Perm Nat, Matches f (r.kept q.language) (r'.kept q.language)) :
    ∃ f : Equiv.Perm Nat, Matches f ((r.serve engine q).1.kept q.language)
      ((r'.serve engine q).1.kept q.language) := by
  obtain ⟨f, hf⟩ := h
  cases hk : r.kept q.language with
  | some outcome =>
    rw [hk] at hf
    have hk' : r'.kept q.language = some (outcome.map (Registered.rename f)) := hf.symm
    rw [kept_serve hr q hk, kept_serve hr' q hk']
    exact ⟨f, rfl⟩
  | none =>
    rw [hk] at hf
    have hk' : r'.kept q.language = none := hf.symm
    rcases serve_cases engine hr q with ⟨hsame, hask⟩ | ⟨fault, hask, -, hmade⟩
    · rcases serve_cases engine hr' q with ⟨hsame', -⟩ | ⟨fault, hask', -, -⟩
      · rw [hsame, hsame', hk, hk']
        exact ⟨f, rfl⟩
      · exact absurd hk (hask fault hask')
    · rcases serve_cases engine hr' q with ⟨-, hask'⟩ | ⟨fault', hask', -, hmade'⟩
      · exact absurd hk' (hask' fault hask)
      · rw [hask] at hask'
        cases hask'
        rw [hmade, hmade', kept_complete, kept_complete, if_pos rfl, if_pos rfl, hr.options_eq,
          hr'.options_eq]
        refine ⟨Equiv.swap r.made r'.made, ?_⟩
        cases fault with
        | none => simp [Matches, complete, Initializer.orFault, Except.map, Registered.rename]
        | some e => rfl

/-- The renaming that fits what is kept after a request fits what was kept before it. -/
theorem matches_before (hr : r.Sound options) (hr' : r'.Sound options) (q : Request)
    {f g : Nat → Nat} (hbefore : Matches g (r.kept language) (r'.kept language))
    (hafter : Matches f ((r.serve engine q).1.kept language) ((r'.serve engine q).1.kept language)) :
    Matches f (r.kept language) (r'.kept language) := by
  cases hk : r.kept language with
  | none => rw [← hbefore, hk]; rfl
  | some outcome =>
    have hk' : r'.kept language = some (outcome.map (Registered.rename g)) := by
      rw [← hbefore, hk]
      rfl
    rw [kept_serve hr q hk, kept_serve hr' q hk'] at hafter
    rw [hk']
    exact hafter

/-- **Two runs.** Let two registries keep the same for a language, but for the number of its handle. Then
the first run's transcript, taken for that language, is the transcript of its requests alone in the second
run, under one renaming of all handles. -/
theorem transcript_alike (engine : Engine) (qs : List Request) (hr : r.Sound options) (hr' : r'.Sound options)
    (h : ∃ f : Equiv.Perm Nat, Matches f (r.kept language) (r'.kept language)) :
    ∃ f : Equiv.Perm Nat, Matches f (r.kept language) (r'.kept language) ∧
      ((transcript engine r qs).filter (·.1.language = language)).map
          (fun x => (x.1, x.2.rename f)) =
        transcript engine r' (qs.filter (·.language = language)) := by
  induction qs generalizing r r' with
  | nil =>
    obtain ⟨f, hf⟩ := h
    exact ⟨f, hf, rfl⟩
  | cons q qs ih =>
    by_cases hl : q.language = language
    · subst hl
      obtain ⟨g, hg⟩ := h
      obtain ⟨f, hf, hrest⟩ :=
        ih (sound_serve hr q) (sound_serve hr' q) (alike_serve hr hr' q ⟨g, hg⟩)
      refine ⟨f, matches_before hr hr' q hg hf, ?_⟩
      have hreply : (r.serve engine q).2.rename f = (r'.serve engine q).2 := by
        rw [reply_serve hr, reply_serve hr', rename_reading, get_of_matches hf]
      simp [transcript_cons, hreply, hrest]
    · have hkept := kept_serve_other engine hr (Ne.symm hl)
      obtain ⟨f, hf, hrest⟩ := ih (sound_serve hr q) hr' (by rwa [hkept])
      rw [hkept] at hf
      exact ⟨f, hf, by simp [transcript_cons, hl, hrest]⟩

theorem sound_after (hr : r.Sound options) (qs : List Request) :
    (r.after engine qs).Sound options := by
  induction qs generalizing r with
  | nil => exact hr
  | cons q qs ih => exact ih (sound_serve hr q)

theorem kept_after (hr : r.Sound options) (qs : List Request) {outcome : Outcome}
    (hk : r.kept language = some outcome) : (r.after engine qs).kept language = some outcome := by
  induction qs generalizing r with
  | nil => exact hk
  | cons q qs ih => exact ih (sound_serve hr q) (kept_serve hr q hk)

/-- Every handle that was handed out is still kept at the end. -/
theorem kept_of_handed (hr : r.Sound options) {qs : List Request} {q : Request} {h : Registered}
    (hx : (q, Reply.handed (.ok h)) ∈ transcript engine r qs) :
    (r.after engine qs).kept q.language = some (.ok h) := by
  induction qs generalizing r with
  | nil => cases hx
  | cons q' qs ih =>
    rw [transcript_cons] at hx
    rcases List.mem_cons.mp hx with hx | hx
    · obtain ⟨rfl, hreply⟩ := Prod.mk.inj hx
      rw [reply_serve hr] at hreply
      have hget : (r.serve engine q).1.get q.language = .ok h := got_of_reading hreply.symm
      exact kept_after (sound_serve hr q) qs (kept_of_get hget)
    · exact ih (sound_serve hr q') hx

end Runs

/-- **Languages do not interfere.** For every sequence of requests to a new registry and every language,
the replies to the requests for that language are, under a renaming of handles, those that its requests
get alone from a new registry with the same options. Two handles handed out are one handle exactly if they
were asked for under one language. Each has that language and the registry's options. -/
theorem languages_apart (engine : Engine) (options : ParseOptions) (qs : List Request) :
    (∀ language, ∃ f : Equiv.Perm Nat,
      ((transcript engine (.new options) qs).filter (·.1.language = language)).map
          (fun x => (x.1, x.2.rename f)) =
        transcript engine (.new options) (qs.filter (·.language = language))) ∧
    (∀ q q' h h', (q, Reply.handed (.ok h)) ∈ transcript engine (.new options) qs →
      (q', Reply.handed (.ok h')) ∈ transcript engine (.new options) qs →
      (h.id = h'.id ↔ q.language = q'.language)) ∧
    (∀ q h, (q, Reply.handed (.ok h)) ∈ transcript engine (.new options) qs →
      h.handle.language = q.language ∧ h.handle.options = options) := by
  have hnew := sound_new options
  have hend : ((Registry.new options).after engine qs).Sound options := sound_after hnew qs
  refine ⟨fun language => ?_, fun q q' h h' hq hq' => ⟨fun hid => ?_, fun hl => ?_⟩,
    fun q h hq => ?_⟩
  · obtain ⟨f, -, hf⟩ := transcript_alike engine qs hnew hnew ⟨Equiv.refl Nat, rfl⟩
    exact ⟨f, hf⟩
  · exact hend.numbered.inj (kept_of_handed hnew hq) (kept_of_handed hnew hq') hid
  · have hk := kept_of_handed hnew hq
    rw [hl, kept_of_handed hnew hq'] at hk
    cases hk
    rfl
  · rw [hend.bound (kept_of_handed hnew hq)]
    exact ⟨rfl, rfl⟩

def interleaved : List Request :=
  [⟨.python, .get⟩, ⟨.rust, .handle none⟩, ⟨.python, .handle none⟩, ⟨.rust, .get⟩, ⟨.python, .get⟩]

/-- Python's handle has the second number among both languages and the first number alone. Both languages are
handed their handles, and these are not the same. -/
theorem languages_apart_interleaved :
    let both := transcript Engine.bundled (.new ⟨none⟩) interleaved
    (∃ f : Equiv.Perm Nat, f 1 = 0 ∧
      (both.filter (·.1.language = .python)).map (fun x => (x.1, x.2.rename f)) =
        transcript Engine.bundled (.new ⟨none⟩) (interleaved.filter (·.language = .python))) ∧
      ∃ h h' : Registered,
        (⟨.rust, .get⟩, Reply.handed (.ok h)) ∈ both ∧
        (⟨.python, .get⟩, Reply.handed (.ok h')) ∈ both ∧
        h.handle.language = .rust ∧ h'.handle.language = .python ∧ h.id ≠ h'.id := by
  intro both
  obtain ⟨halone, hdistinct, howned⟩ := languages_apart Engine.bundled ⟨none⟩ interleaved
  obtain ⟨f, hf⟩ := halone .python
  refine ⟨⟨f, ?_, hf⟩, ⟨0, .make .rust ⟨none⟩⟩, ⟨1, .make .python ⟨none⟩⟩, ?_⟩
  · have hsecond : some ((⟨.python, .handle none⟩ : Request),
          Reply.handed (.ok ⟨f 1, .make .python ⟨none⟩⟩)) =
        some (⟨.python, .handle none⟩, Reply.handed (.ok ⟨0, .make .python ⟨none⟩⟩)) :=
      congrArg (fun t => t[1]?) hf
    simpa using hsecond
  · have hrust : (⟨.rust, .get⟩, Reply.handed (.ok ⟨0, .make .rust ⟨none⟩⟩)) ∈ both :=
      List.mem_of_getElem? (i := 3) rfl
    have hpython : (⟨.python, .get⟩, Reply.handed (.ok ⟨1, .make .python ⟨none⟩⟩)) ∈ both :=
      List.mem_of_getElem? (i := 4) rfl
    refine ⟨hrust, hpython, (howned _ _ hrust).1, (howned _ _ hpython).1, fun hid => ?_⟩
    have hsame := (hdistinct _ _ _ _ hrust hpython).mp hid
    cases hsame

end Registry

end LineScope
