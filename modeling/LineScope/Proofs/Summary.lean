import LineScope.Proofs.Text.Lenient
import LineScope.Summary

/-!
# The text and the name in a summary

A summary is made from slices of a text given as bytes: that of the node, and that of the node of its name. A
node whose places are not in the text, or not in order, has no slice, and the summary panics; otherwise the slice is
what stands between the places (`bytes_eq_ok_iff`). So there is a summary exactly if both slices are there and the
span does not overflow (`ofNode_eq_ok_iff`, `ofNode_of_not_inText`).

The text is read strictly, and leniently where that fails. Both readings agree on well-formed bytes, so the text is
always what lenient reading gives (`text_eq_decodeLossy`), and it is written as the node's bytes exactly if strict
reading succeeded (`encode_decodeLossy_iff`). A name is read strictly and left out where that fails. It is cut out
of the same bytes in other places, so either of text and name may be well formed without the other; in a text that
is cut between its characters both are (`exists_slice`).
-/
namespace LineScope

open Text

/-! ## Slices -/

/-- The node's places lie in the content, in order. -/
def SourceNode.Within (content : List UInt8) (n : SourceNode) : Prop :=
  n.first ≤ n.last ∧ n.last ≤ content.length

instance SourceNode.decidableWithin (content : List UInt8) (n : SourceNode) :
    Decidable (n.Within content) :=
  inferInstanceAs (Decidable (_ ∧ _))

/-- The node's bytes in the content are `bs`. -/
def SourceNode.CutsOut (content bs : List UInt8) (n : SourceNode) : Prop :=
  ∃ front back, content = front ++ bs ++ back ∧ n.first = front.length ∧
    n.last = front.length + bs.length

/-- The places that a summary of the node cuts at lie in the content: those of the node, and those of its name. -/
structure SourceNode.InText (content : List UInt8) (n : SourceNode) : Prop where
  own : n.Within content
  name : ∀ m, n.child? "name" = some m → m.Within content

section Slices

variable {content bs : List UInt8} {n : SourceNode}

theorem SourceNode.within_of_cutsOut (h : n.CutsOut content bs) : n.Within content := by
  obtain ⟨front, back, rfl, hfirst, hlast⟩ := h
  simp only [Within, List.length_append]
  omega

/-- **A slice** is what stands between the places of the node. -/
theorem SourceNode.bytes_eq_ok_iff : n.bytes content = .ok bs ↔ n.CutsOut content bs := by
  constructor
  · intro h
    unfold bytes at h
    split at h
    · rename_i hwithin
      obtain ⟨hle, hlast⟩ := hwithin
      cases h
      refine ⟨content.take n.first, content.drop n.last, ?_, ?_, ?_⟩
      · have hdrop : content.drop n.last = (content.drop n.first).drop (n.last - n.first) := by
          rw [List.drop_drop]
          congr 1
          omega
        rw [hdrop, List.append_assoc, List.take_append_drop, List.take_append_drop]
      · rw [List.length_take]
        omega
      · simp only [List.length_take, List.length_drop]
        omega
    · cases h
  · intro h
    have hwithin := within_of_cutsOut h
    obtain ⟨front, back, rfl, hfirst, hlast⟩ := h
    exact (if_pos hwithin).trans (by simp [hfirst, hlast])

theorem SourceNode.exists_bytes (h : n.Within content) : ∃ bs, n.bytes content = .ok bs :=
  ⟨_, if_pos h⟩

/-- **Out of the text** there is no slice. -/
theorem SourceNode.bytes_of_not_within (h : ¬ n.Within content) :
    n.bytes content = .error (.outside ⟨n.first, n.last, content.length⟩) :=
  if_neg h

theorem SourceNode.text?_of_bytes (h : n.bytes content = .ok bs) :
    n.text? content = .ok (Utf8.decode? bs) := by
  rw [text?, h]
  rfl

end Slices

/-- The place, counted in bytes, is between two characters of the text or at one of its ends. -/
def Boundary (source : String) (place : Nat) : Prop :=
  ∃ front back, source = front ++ back ∧ place = (Utf8.encode front).length

theorem exists_append_or {s t s' t' : String} (h : s ++ t = s' ++ t') :
    (∃ mid, s' = s ++ mid) ∨ ∃ mid, s = s' ++ mid := by
  have hlist : s.toList ++ t.toList = s'.toList ++ t'.toList := by
    rw [← String.toList_append, h, String.toList_append]
  have hextend {s s' : String} (hs : s.toList <+: s'.toList) : ∃ mid, s' = s ++ mid := by
    obtain ⟨mid, hmid⟩ := hs
    refine ⟨String.ofList mid, String.toList_inj.mp ?_⟩
    rw [String.toList_append, String.toList_ofList, hmid]
  rcases List.prefix_or_prefix_of_prefix (List.prefix_append _ _) ⟨_, hlist.symm⟩ with hs | hs
  · exact Or.inl (hextend hs)
  · exact Or.inr (hextend hs)

/-- A node that begins and ends between characters cuts out a slice of the text. -/
theorem exists_slice {source : String} {n : SourceNode} {bs : List UInt8}
    (h : n.CutsOut (Utf8.encode source) bs) (hfirst : Boundary source n.first)
    (hlast : Boundary source n.last) : ∃ mid, Utf8.encode mid = bs := by
  obtain ⟨front, back, hcontent, hn, hn'⟩ := h
  obtain ⟨before, after, rfl, hbefore⟩ := hfirst
  obtain ⟨before', after', hsource, hbefore'⟩ := hlast
  have hfront : front = Utf8.encode before := by
    rw [Utf8.encode_append, List.append_assoc] at hcontent
    exact (List.append_inj hcontent.symm (by omega)).1
  have hboth : front ++ bs = Utf8.encode before' := by
    rw [hsource, Utf8.encode_append] at hcontent
    refine (List.append_inj hcontent.symm ?_).1
    rw [List.length_append]
    omega
  subst hfront
  rcases exists_append_or hsource with ⟨mid, rfl⟩ | ⟨mid, rfl⟩
  · rw [Utf8.encode_append] at hboth
    exact ⟨mid, (List.append_cancel_left hboth).symm⟩
  · have hempty : bs = [] := by
      have hlen := congrArg List.length hboth
      rw [Utf8.encode_append, List.length_append, List.length_append] at hlen
      exact List.eq_nil_of_length_eq_zero (by omega)
    exact ⟨"", hempty ▸ rfl⟩

/-! ## Text and name -/

theorem text_eq_decodeLossy (bs : List UInt8) :
    (Utf8.decode? bs).getD (Utf8.decodeLossy bs) = Utf8.decodeLossy bs := by
  cases h : Utf8.decode? bs with
  | none => rfl
  | some s =>
    rw [← Utf8.decode?_eq_some_iff.mp h, Utf8.decodeLossy_encode]
    rfl

theorem encode_decodeLossy_iff (bs : List UInt8) :
    Utf8.encode (Utf8.decodeLossy bs) = bs ↔ ∃ s, Utf8.decode? bs = some s := by
  constructor
  · intro h
    exact ⟨_, Utf8.decode?_eq_some_iff.mpr h⟩
  · rintro ⟨s, hs⟩
    rw [← Utf8.decode?_eq_some_iff.mp hs, Utf8.decodeLossy_encode]

section Parts

variable {content bs : List UInt8} {n : SourceNode}

theorem SourceNode.lossyText_of_bytes (h : n.bytes content = .ok bs) :
    n.lossyText content = .ok (Utf8.decodeLossy bs) := by
  rw [← text_eq_decodeLossy, lossyText, text?_of_bytes h, h]
  cases Utf8.decode? bs <;> rfl

theorem SourceNode.lossyText_of_not_within (h : ¬ n.Within content) :
    n.lossyText content = .error (.outside ⟨n.first, n.last, content.length⟩) := by
  rw [lossyText, text?, bytes_of_not_within h]
  rfl

/-- A name is the text whose bytes are those of the node's name, if there is such a text. -/
theorem SourceNode.exists_name? (h : ∀ m, n.child? "name" = some m → m.Within content) :
    ∃ name, n.name? content = .ok name ∧
      ∀ t, name = some t ↔ ∃ m, n.child? "name" = some m ∧ m.CutsOut content (Utf8.encode t) := by
  unfold name?
  cases hname : n.child? "name" with
  | none => exact ⟨none, rfl, by simp⟩
  | some m =>
    obtain ⟨bs, hbs⟩ := exists_bytes (h m hname)
    refine ⟨_, text?_of_bytes hbs, fun t => ?_⟩
    simp only [Option.some.injEq, exists_eq_left', Utf8.decode?_eq_some_iff, ← bytes_eq_ok_iff, hbs,
      Except.ok.injEq]
    exact eq_comm

structure Summary.Describes (language : Language) (content : List UInt8) (n : SourceNode)
    (s : Summary) : Prop where
  kind : s.kind = n.kind
  label : s.label = Scope.label? language n.kind
  text : n.lossyText content = .ok s.text
  name : n.name? content = .ok s.name
  span : TreeNode.span n = .ok s.span
  size : s.size = TreeNode.rowSpan n
  childCount : s.childCount = n.children.length

theorem Summary.ofNode_eq_ok_iff {language : Language} {s : Summary} :
    ofNode language content n = .ok s ↔ s.Describes language content n := by
  unfold ofNode
  constructor
  · intro h
    cases htext : n.lossyText content with
    | error f => rw [htext] at h; cases h
    | ok text =>
      cases hname : n.name? content with
      | error f => rw [htext, hname] at h; cases h
      | ok name =>
        cases hspan : TreeNode.span n with
        | error o => rw [htext, hname, hspan] at h; cases h
        | ok span =>
          rw [htext, hname, hspan] at h
          cases h
          exact ⟨rfl, rfl, htext, hname, hspan, rfl, rfl⟩
  · intro h
    rw [h.text, h.name, h.span, ← h.label, ← h.size, ← h.childCount, ← h.kind]
    rfl

/-- A node in the text has a summary, unless its span overflows. -/
theorem Summary.exists_ofNode (language : Language) (h : n.InText content) {span : Span}
    (hspan : TreeNode.span n = .ok span) : ∃ s, ofNode language content n = .ok s := by
  obtain ⟨bs, hbs⟩ := SourceNode.exists_bytes h.own
  obtain ⟨name, hname, -⟩ := SourceNode.exists_name? h.name
  let s : Summary := {
    kind := n.kind
    label := Scope.label? language n.kind
    name := name
    span := span
    size := TreeNode.rowSpan n
    childCount := n.children.length
    text := Utf8.decodeLossy bs }
  refine ⟨s, ofNode_eq_ok_iff.mpr ?_⟩
  exact ⟨rfl, rfl, SourceNode.lossyText_of_bytes hbs, hname, hspan, rfl, rfl⟩

/-- **Out of the text** there is no summary, whatever the span. -/
theorem Summary.ofNode_of_not_inText (language : Language) (h : ¬ n.InText content) :
    ∃ slice, ofNode language content n = .error (.outside slice) := by
  unfold ofNode
  by_cases hown : n.Within content
  · obtain ⟨bs, hbs⟩ := SourceNode.exists_bytes hown
    have hname : ¬ ∀ m, n.child? "name" = some m → m.Within content := fun hall => h ⟨hown, hall⟩
    simp only [Classical.not_forall] at hname
    obtain ⟨m, hm, hout⟩ := hname
    have hpanic : n.name? content = .error (.outside ⟨m.first, m.last, content.length⟩) := by
      unfold SourceNode.name? SourceNode.text?
      rw [hm]
      simp only [SourceNode.bytes_of_not_within hout]
      rfl
    rw [SourceNode.lossyText_of_bytes hbs, hpanic]
    exact ⟨_, rfl⟩
  · rw [SourceNode.lossyText_of_not_within hown]
    exact ⟨_, rfl⟩

end Parts

/-- **Text and name of a summary.** Let a node, and the node of its name if it has one, lie in the content. It has
a summary unless its place overflows. Then the text of the summary is what lenient reading makes of the node's
bytes, also where they were read strictly: the characters that are encoded there, with one replacement for each
broken part. It is written as the node's bytes exactly if these are well formed. The name is the text whose
bytes are those of the node's name, and it is there exactly if there is such a text. If the content is a text
and the node begins and ends between characters, nothing is replaced; and if the node of its name does, the name
is there. -/
theorem Summary.ofNode_reads (language : Language) {content : List UInt8} {n : SourceNode}
    (hn : n.Within content) (hname : ∀ m, n.child? "name" = some m → m.Within content) :
    ((∃ s, Summary.ofNode language content n = .ok s) ↔ ∃ span, TreeNode.span n = .ok span) ∧
    ∃ bs, n.CutsOut content bs ∧
      ∀ s, Summary.ofNode language content n = .ok s →
        s.text = Utf8.decodeLossy bs ∧
        (∀ t, n.text? content = .ok (some t) → s.text = t) ∧
        (∀ cs, Utf8.Lenient bs cs ↔ cs = s.text.toList) ∧
        (Utf8.encode s.text = bs ↔ ∃ t, n.text? content = .ok (some t)) ∧
        (∀ t, s.name = some t ↔
          ∃ m, n.child? "name" = some m ∧ m.CutsOut content (Utf8.encode t)) ∧
        ∀ source, content = Utf8.encode source →
          (Boundary source n.first → Boundary source n.last → Utf8.encode s.text = bs) ∧
          ∀ m, n.child? "name" = some m → Boundary source m.first → Boundary source m.last →
            s.name.isSome := by
  obtain ⟨bs, hbs⟩ := SourceNode.exists_bytes hn
  have hcuts := SourceNode.bytes_eq_ok_iff.mp hbs
  have hstrict := SourceNode.text?_of_bytes hbs
  refine ⟨⟨?_, ?_⟩, bs, hcuts, fun s hs => ?_⟩
  · rintro ⟨s, hs⟩
    exact ⟨s.span, (ofNode_eq_ok_iff.mp hs).span⟩
  · rintro ⟨span, hspan⟩
    exact exists_ofNode language ⟨hn, hname⟩ hspan
  · have hdesc := ofNode_eq_ok_iff.mp hs
    have htext : s.text = Utf8.decodeLossy bs :=
      Except.ok.inj (hdesc.text.symm.trans (SourceNode.lossyText_of_bytes hbs))
    have hnamed : ∀ t, s.name = some t ↔
        ∃ m, n.child? "name" = some m ∧ m.CutsOut content (Utf8.encode t) := by
      obtain ⟨name, hname', hiff⟩ := SourceNode.exists_name? hname
      rw [Except.ok.inj (hdesc.name.symm.trans hname')]
      exact hiff
    rw [hstrict, htext]
    refine ⟨rfl, fun t ht => ?_, fun cs => Utf8.lenient_iff, ?_, hnamed, ?_⟩
    · rw [← Utf8.decode?_eq_some_iff.mp (Except.ok.inj ht), Utf8.decodeLossy_encode]
    · simpa using encode_decodeLossy_iff bs
    · rintro source rfl
      refine ⟨fun hfirst hlast => ?_, fun m hm hfirst hlast => ?_⟩
      · obtain ⟨mid, rfl⟩ := exists_slice hcuts hfirst hlast
        rw [Utf8.decodeLossy_encode]
      · obtain ⟨bs', hbs'⟩ := SourceNode.exists_bytes (hname m hm)
        have hcuts' := SourceNode.bytes_eq_ok_iff.mp hbs'
        obtain ⟨mid, rfl⟩ := exists_slice hcuts' hfirst hlast
        rw [(hnamed mid).mpr ⟨m, hm, hcuts'⟩]
        rfl

def tornBytes : List UInt8 := [0x64, 0x20, 0xC3, 0x28, 0xE2, 0x82]

/-- A node of some first bytes, with the very first one as its name. -/
def namedByFirst (last : Nat) : SourceNode :=
  ⟨"block", none, 0, last, ⟨0, 0⟩, ⟨0, 6⟩, [⟨"identifier", some "name", 0, 1, ⟨0, 0⟩, ⟨0, 1⟩, []⟩]⟩

/-- The torn sequences are replaced, and the name is read all the same. In a letter of two bytes it is the other
way round. -/
theorem Summary.ofNode_reads_torn :
    (∃ s, Summary.ofNode .python tornBytes (namedByFirst 6) = .ok s ∧ s.text = "d \uFFFD(\uFFFD" ∧
      Utf8.encode s.text ≠ tornBytes ∧ s.name = some "d") ∧
    ∃ s, Summary.ofNode .python (Utf8.encode "é") (namedByFirst 2) = .ok s ∧
      Utf8.encode s.text = Utf8.encode "é" ∧ s.name = none := by
  have hwithin {content : List UInt8} {last : Nat} (hlast : 1 ≤ last) (hle : last ≤ content.length) :
      ∀ m, (namedByFirst last).child? "name" = some m → m.Within content := by
    rintro m ⟨⟩
    exact ⟨by decide, Nat.le_trans hlast hle⟩
  have hspan (last : Nat) : ∃ span, TreeNode.span (namedByFirst last) = .ok span := ⟨_, rfl⟩
  have htorn : (namedByFirst 6).Within tornBytes := ⟨by decide, by decide⟩
  have hletter : (namedByFirst 2).Within (Utf8.encode "é") := ⟨by decide, by decide +kernel⟩
  obtain ⟨hsummary, bs, hbs, hread⟩ :=
    ofNode_reads .python htorn (hwithin (by decide) htorn.2)
  obtain ⟨hsummary', bs', hbs', hread'⟩ :=
    ofNode_reads .python hletter (hwithin (by decide) hletter.2)
  obtain ⟨s, hs⟩ := hsummary.mpr (hspan 6)
  obtain ⟨s', hs'⟩ := hsummary'.mpr (hspan 2)
  obtain ⟨htext, -, -, hwritten, hname, -⟩ := hread s hs
  obtain ⟨-, -, -, -, hname', hsource⟩ := hread' s' hs'
  have hall : bs = tornBytes :=
    Except.ok.inj ((SourceNode.bytes_eq_ok_iff.mpr hbs).symm.trans rfl)
  have hall' : bs' = Utf8.encode "é" :=
    Except.ok.inj ((SourceNode.bytes_eq_ok_iff.mpr hbs').symm.trans rfl)
  refine ⟨⟨s, hs, ?_, ?_, ?_⟩, s', hs', ?_, ?_⟩
  · rw [htext, hall]
    decide +kernel
  · rw [hall] at hwritten
    refine mt hwritten.mp ?_
    have hbroken : Utf8.decode? tornBytes = none := by decide +kernel
    have hslice : (namedByFirst 6).bytes tornBytes = .ok tornBytes := rfl
    rw [SourceNode.text?_of_bytes hslice, hbroken]
    rintro ⟨t, ⟨⟩⟩
  · exact (hname "d").mpr ⟨_, rfl, [], tornBytes.drop 1, by decide +kernel, rfl, by decide +kernel⟩
  · have hfirst : Boundary "é" 0 := ⟨"", "é", rfl, rfl⟩
    have hlast : Boundary "é" 2 := ⟨"é", "", rfl, by decide +kernel⟩
    rw [(hsource "é" rfl).1 hfirst hlast, hall']
  · cases hnone : s'.name with
    | none => rfl
    | some t =>
      obtain ⟨m, ⟨⟩, hcuts⟩ := (hname' t).mp hnone
      have hbyte : Utf8.encode t = [0xC3] := by
        exact Except.ok.inj ((SourceNode.bytes_eq_ok_iff.mpr hcuts).symm.trans rfl)
      have hbroken : Utf8.decode? [0xC3] = none := by decide +kernel
      rw [← hbyte, Utf8.decode?_encode] at hbroken
      cases hbroken

end LineScope
