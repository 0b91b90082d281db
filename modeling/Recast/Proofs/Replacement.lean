import Recast.Proofs.Spans

/-! What replacing spans makes of a text. The text is a sequence of gaps and spans, the gaps are kept and
each span gives way to its new text. Splicing does this for any spans that ascend, and replacing the
matches of a regular expression, which copies the text up to each match, is splicing over them. -/

namespace Recast

namespace Template

theorem pieces_append (plain : Text) (h : '$' ∉ plain) (rest : Text) :
    pieces (plain ++ rest).length (plain ++ rest) =
      plain.map .plain ++ pieces rest.length rest := by
  induction plain with
  | nil => rfl
  | cons c plain ih =>
    obtain ⟨hc, hplain⟩ : '$' ≠ c ∧ '$' ∉ plain := by simpa using h
    rw [List.cons_append, List.length_cons, pieces, List.map_cons, ih hplain, List.cons_append]
    all_goals
      intros
      simp_all

theorem pieces_plain (template : Text) (h : '$' ∉ template) :
    pieces template.length template = template.map .plain := by
  simpa [pieces] using pieces_append template h []

theorem flatMap_plain (regex : Regex) (found : Match) (text plain : Text) :
    (plain.map Piece.plain).flatMap (Piece.render regex found text) = plain := by
  simp [List.flatMap_map, Piece.render]

theorem expand_plain (regex : Regex) (template : Text) (found : Match) (text : Text)
    (h : '$' ∉ template) : expand regex template found text = template := by
  rw [expand, pieces_plain template h, flatMap_plain]

end Template

namespace Replacement

theorem acts_template (text : Text) : (template text).acts = fun _ => text := rfl

theorem acts_computed (f : Text → Text) : (computed f).acts = f := rfl

def isPlain : Replacement → Bool
  | template text => !text.contains '$'
  | computed _ => true

theorem fill_plain {new : Replacement} (hn : new.isPlain = true) (expr : Regex) (hit : Match)
    (text : Text) : new.fill expr hit text = new.acts (hit.span.slice text) := by
  cases new with
  | template template =>
    have hplain : '$' ∉ template := by simpa [isPlain] using hn
    exact Template.expand_plain expr template hit text hplain
  | computed f => rfl

end Replacement

theorem Span.slice_found (front found after : Text) :
    (Span.mk front.length (front.length + found.length)).slice (front ++ (found ++ after)) =
      found := by
  simp [slice]

namespace Scope

@[simp]
theorem pick_all {α : Type} (found : List α) : all.pick found = found := rfl

@[simp]
theorem pick_first {α : Type} (found : List α) : first.pick found = found.take 1 := rfl

theorem pick_map {α β : Type} (scope : Scope) (f : α → β) (found : List α) :
    scope.pick (found.map f) = (scope.pick found).map f := by
  cases scope <;> simp

theorem mem_of_mem_pick {α : Type} (scope : Scope) {found : List α} {a : α}
    (h : a ∈ scope.pick found) : a ∈ found := by
  cases scope with
  | all => exact h
  | first => exact List.mem_of_mem_take h

theorem pick_eq_nil_iff {α : Type} (scope : Scope) (found : List α) :
    scope.pick found = [] ↔ found = [] := by
  cases scope <;> simp

end Scope

/-- Replacing the matches of a pattern one by one, up to a limit, is splicing over them. -/
theorem Regex.replaceFrom_eq_spliceFrom {new : Match → Text} {text : Text} {limit : Nat}
    (hits : List Match) : ∀ {count last : Nat}, Span.Ordered last text.length (hits.map (·.span)) →
      limit = 0 ∨ count < limit →
      replaceFrom new text limit count last hits =
        spliceFrom last (text.drop last)
          ((if 0 < limit then hits.take (limit - count) else hits).map fun hit =>
            (hit.span, new hit)) := by
  induction hits with
  | nil => simp [replaceFrom, spliceFrom]
  | cons hit hits ih =>
    intro count last h hlimit
    obtain ⟨hstart, hstop, hmore⟩ := h
    have hlast : last + (hit.span.stop - last) = hit.span.stop :=
      Nat.add_sub_cancel' (Nat.le_trans hstart hstop)
    rw [replaceFrom]
    rcases Nat.eq_zero_or_pos limit with rfl | hpos
    · have hrest := @ih (count + 1) hit.span.stop hmore (.inl rfl)
      simp only [Nat.lt_irrefl, decide_false, Bool.false_and, Bool.false_eq_true, if_false] at hrest ⊢
      rw [hrest, List.map_cons, spliceFrom, List.drop_drop, hlast]
      rfl
    · have hcount : count < limit := hlimit.resolve_left (Nat.ne_of_gt hpos)
      obtain ⟨left, hleft⟩ : ∃ left, limit - count = left + 1 := ⟨limit - count - 1, by omega⟩
      simp only [hpos, decide_true, Bool.true_and, decide_eq_true_eq, if_true] at ih ⊢
      rw [hleft, List.take_succ_cons, List.map_cons, spliceFrom, List.drop_drop, hlast]
      split
      next hend =>
        obtain rfl : left = 0 := by omega
        rfl
      next hgo =>
        have hnext : limit - (count + 1) = left := by omega
        rw [ih hmore (.inr (by omega)), hnext]
        rfl

theorem Replacement.getD_splice? (new : Replacement) (text : Text) (spans : List Span) :
    (new.splice? text spans).getD text = splice text (new.edits text spans) := by
  cases spans <;> rfl

namespace Matcher

theorem getD_replace?_regex (expr : Regex) (new : Replacement) (scope : Scope) (text : Text) :
    ((regex expr).replace? new scope text).getD text =
      splice text ((scope.pick (expr.pattern.findAll text)).map fun hit =>
        (hit.span, new.fill expr hit text)) := by
  have hordered : Span.Ordered 0 text.length ((expr.pattern.findAll text).map (·.span)) :=
    (regex expr).spans_ordered text
  have hreplaced := @Regex.replaceFrom_eq_spliceFrom (fun hit => new.fill expr hit text) text
    scope.limit _ 0 0 hordered (Nat.eq_zero_or_pos scope.limit)
  rw [replace?, Regex.replace?]
  cases hall : expr.pattern.findAll text with
  | nil =>
    rw [(scope.pick_eq_nil_iff []).mpr rfl]
    rfl
  | cons hit hits =>
    rw [hall] at hreplaced
    exact hreplaced

theorem replace?_eq_none_iff (matcher : Matcher) (new : Replacement) (scope : Scope) (text : Text) :
    matcher.replace? new scope text = none ↔ matcher.spans text = [] := by
  have spliced (spans : List Span) : new.splice? text (scope.pick spans) = none ↔ spans = [] := by
    rw [← scope.pick_eq_nil_iff]
    cases scope.pick spans <;> simp [Replacement.splice?]
  cases matcher with
  | regex expr =>
    rw [replace?, Regex.replace?, spans, List.map_eq_nil_iff]
    cases expr.pattern.findAll text <;> simp
  | literal needle => exact spliced _
  | lines block => exact spliced _
  | braced header => exact spliced _

/-- The two ways of replacing agree where the new text does not refer to groups. -/
theorem replace?_eq_splice? {matcher : Matcher} {new : Replacement}
    (h : matcher.isRegex = true → new.isPlain = true) (scope : Scope) (text : Text) :
    matcher.replace? new scope text = new.splice? text (scope.pick (matcher.spans text)) := by
  cases matcher with
  | regex expr =>
    have hnone := (regex expr).replace?_eq_none_iff new scope text
    have hsome := getD_replace?_regex expr new scope text
    simp only [Replacement.fill_plain (h rfl)] at hsome
    rw [spans, List.map_eq_nil_iff, ← scope.pick_eq_nil_iff] at hnone
    rw [spans, Scope.pick_map]
    cases hpick : scope.pick (expr.pattern.findAll text) with
    | nil => exact hnone.mpr hpick
    | cons hit hits =>
      obtain ⟨out, hout⟩ := Option.ne_none_iff_exists'.mp (mt hnone.mp (by simp [hpick]))
      rw [hout, Option.getD_some, hpick] at hsome
      rw [hout, hsome]
      simp [Replacement.splice?, Replacement.edits, Function.comp_def]
  | literal needle => rfl
  | lines block => rfl
  | braced header => rfl

theorem getD_replace?_of_spans {matcher : Matcher} {new : Replacement}
    (h : matcher.isRegex = true → new.isPlain = true) (scope : Scope) (text : Text) :
    (matcher.replace? new scope text).getD text =
      splice text (new.edits text (scope.pick (matcher.spans text))) := by
  rw [replace?_eq_splice? h, Replacement.getD_splice?]

end Matcher

/-- What splicing makes of a text up to the end of the first span. The text in hand stands behind
`front`. -/
theorem spliceFrom_span {text front rest : Text} {span : Span} {spans : List Span}
    (htext : text = front ++ rest)
    (h : Span.Ordered front.length text.length (span :: spans)) :
    ∃ gap covered after, rest = gap ++ (covered ++ after) ∧ span.slice text = covered ∧
      span = ⟨front.length + gap.length, front.length + gap.length + covered.length⟩ ∧
      ∀ new edits, spliceFrom front.length rest ((span, new) :: edits) =
        gap ++ (new ++ spliceFrom (front ++ gap ++ covered).length after edits) := by
  rw [htext, List.length_append] at h
  obtain ⟨gap, covered, after, rfl, rfl⟩ := h.cut
  refine ⟨gap, covered, after, rfl, ?_, rfl, fun new edits => ?_⟩
  · rw [htext, ← List.append_assoc, ← List.length_append]
    exact Span.slice_found (front ++ gap) covered after
  · have hgap : front.length + gap.length - front.length = gap.length := by omega
    have hcovered : front.length + gap.length + covered.length - front.length =
        gap.length + covered.length := by omega
    rw [spliceFrom, hgap, hcovered, List.take_left, ← List.drop_drop, List.drop_left,
      List.drop_left, List.append_assoc, List.length_append, List.length_append]

/-- `out` is the text from an offset on with just these spans replaced by a function of the text they
cover. What lies between the spans, and behind the last of them, is kept. -/
inductive Replaced (f : Text → Text) : Nat → Text → List Span → Text → Prop
  | rest (pos : Nat) (kept : Text) : Replaced f pos kept [] kept
  | span {pos start stop : Nat} {spans : List Span} {after out : Text} (gap covered : Text)
    (hstart : start = pos + gap.length) (hstop : stop = start + covered.length)
    (more : Replaced f stop after spans out) :
    Replaced f pos (gap ++ (covered ++ after)) (⟨start, stop⟩ :: spans) (gap ++ (f covered ++ out))

namespace Replaced

variable {f : Text → Text}

/-- Splicing over spans that ascend replaces them. The text in hand stands behind `front`. -/
theorem of_spliceFrom (f : Text → Text) {text : Text} {spans : List Span} : ∀ {front rest : Text},
    text = front ++ rest → Span.Ordered front.length text.length spans →
    Replaced f front.length rest spans
      (spliceFrom front.length rest (spans.map fun span => (span, f (span.slice text)))) := by
  induction spans with
  | nil => exact fun _ _ => .rest _ _
  | cons span more ih =>
    intro front rest htext h
    obtain ⟨gap, covered, after, rfl, hslice, rfl, hsplice⟩ := spliceFrom_span htext h
    have hpassed : (front ++ gap ++ covered).length =
        front.length + gap.length + covered.length := by
      rw [List.length_append, List.length_append]
    have hafter : text = front ++ gap ++ covered ++ after := by
      rw [htext]
      simp only [List.append_assoc]
    have hout := ih hafter (hpassed ▸ h.2.2)
    rw [List.map_cons, hslice, hsplice]
    rw [hpassed] at hout ⊢
    exact .span gap covered rfl rfl hout

theorem of_cons {f : Text → Text} {pos : Nat} {text out : Text} {span : Span} {spans : List Span}
    (h : Replaced f pos text (span :: spans) out) :
    ∃ gap covered after out', text = gap ++ (covered ++ after) ∧ span.start = pos + gap.length ∧
      span.stop = span.start + covered.length ∧ out = gap ++ (f covered ++ out') ∧
      Replaced f span.stop after spans out' := by
  cases h with
  | span gap covered hstart hstop more =>
    exact ⟨gap, covered, _, _, rfl, hstart, hstop, rfl, more⟩

theorem unique {f : Text → Text} {pos : Nat} {text out out' : Text} {spans : List Span}
    (h : Replaced f pos text spans out) (h' : Replaced f pos text spans out') : out = out' := by
  induction h generalizing out' with
  | rest pos kept => cases h' with | rest => rfl
  | span gap covered hstart hstop more ih =>
    obtain ⟨gap', covered', after', rest, heq, hstart', hstop', rfl, hmore⟩ := h'.of_cons
    simp only at hstart' hstop' hmore
    obtain ⟨rfl, hbehind⟩ := List.append_inj heq (by omega)
    obtain ⟨rfl, rfl⟩ := List.append_inj hbehind (by omega)
    rw [ih hmore]

end Replaced

/-- Replacing is splicing over the spans of the matcher, and gives the text in which just the spans that
the scope admits are replaced by a function of their own text. There is no answer without a span. -/
theorem Matcher.replace?_replaces_spans (matcher : Matcher) (new : Replacement) (scope : Scope)
    (text : Text) (h : matcher.isRegex = true → new.isPlain = true) :
    matcher.replace? new scope text = new.splice? text (scope.pick (matcher.spans text)) ∧
      (matcher.replace? new scope text = none ↔ matcher.spans text = []) ∧
      ∀ out, Replaced new.acts 0 text (scope.pick (matcher.spans text)) out ↔
        out = (matcher.replace? new scope text).getD text := by
  have hordered := (matcher.spans_ordered text).pick scope
  have hreplaced := Replaced.of_spliceFrom new.acts (List.nil_append text).symm hordered
  refine ⟨replace?_eq_splice? h scope text, replace?_eq_none_iff matcher new scope text, ?_⟩
  rw [getD_replace?_of_spans h]
  refine fun out => ⟨fun hout => hout.unique hreplaced, ?_⟩
  rintro rfl
  exact hreplaced

theorem Matcher.replace?_replaces_spans_empty :
    ((Matcher.regex (.ofText "x*".toList)).isRegex = true →
        (Replacement.template "-".toList).isPlain = true) ∧
      (Matcher.regex (.ofText "x*".toList)).spans "axb".toList = [⟨0, 0⟩, ⟨1, 2⟩, ⟨3, 3⟩] ∧
      (Matcher.regex (.ofText "x*".toList)).replace? (.template "-".toList) .all "axb".toList =
        some "-a-b-".toList := by
  have hplain : (Matcher.regex (.ofText "x*".toList)).isRegex = true →
      (Replacement.template "-".toList).isPlain = true := fun _ => by decide
  have hspans : (Matcher.regex (.ofText "x*".toList)).spans "axb".toList =
      [⟨0, 0⟩, ⟨1, 2⟩, ⟨3, 3⟩] := by decide +kernel
  refine ⟨hplain, hspans, ?_⟩
  rw [(Matcher.replace?_replaces_spans (.regex (.ofText "x*".toList)) (.template "-".toList) .all
    "axb".toList hplain).1, hspans]
  decide

namespace Matcher

/-- The ways to ask a matcher about a text agree with its spans. -/
structure Agrees (matcher : Matcher) (text : Text) : Prop where
  find : matcher.find? text = (matcher.spans text).head?
  isMatch : matcher.isMatch text = true ↔ matcher.spans text ≠ []
  replace : ∀ (new : Replacement) (scope : Scope),
    matcher.replace? new scope text = none ↔ matcher.spans text = []

/-- What is found first, whether there is a match and whether anything is replaced can all be told from
the spans, for every kind of matcher. -/
theorem views_agree (matcher : Matcher) (text : Text) : matcher.Agrees text where
  find := matcher.find?_eq_head? text
  isMatch := by rw [isMatch_eq, find?_eq_head?, List.isSome_head?]
  replace new scope := matcher.replace?_eq_none_iff new scope text

end Matcher

end Recast
