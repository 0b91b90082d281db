import Mathlib.Data.List.Forall2
import Recast.Proofs.Pattern.Avoids
import Recast.Proofs.Pattern.Leftmost
import Recast.Proofs.RuleSet
import Recast.Proofs.Segments
import Recast.Proofs.Sweeps

/-! Rules that stay within a line. Which characters the spans of a matcher can hold is known from its
classes, and so is which characters come in place of them: those of the template, and those of
groups, which lie within the span. If there is no line break among either, then the rule changes the
text line by line, and every line becomes one line. -/

namespace Recast

def lineBreaks : List Char :=
  ['\n', '\x0b', '\x0c', '\r', '\u0085', '\u2028', '\u2029']

theorem Span.slice_isInfix {inner outer : Span} (hstart : outer.start ≤ inner.start)
    (hstop : inner.stop ≤ outer.stop) (text : Text) : inner.slice text <:+: outer.slice text := by
  obtain ⟨gap, hgap⟩ := Nat.exists_eq_add_of_le hstart
  have hinner : inner.slice text =
      ((text.drop outer.start).drop gap).take (inner.stop - inner.start) := by
    rw [slice, List.drop_drop, ← hgap]
  have houter : (outer.slice text).drop gap =
      ((text.drop outer.start).drop gap).take (outer.stop - inner.start) := by
    rw [slice, List.drop_take, Nat.sub_sub, ← hgap]
  refine List.IsInfix.trans ?_ (List.drop_suffix gap _).isInfix
  rw [hinner, houter]
  exact (List.take_prefix_take_left (Nat.sub_le_sub_right hstop _)).isInfix

namespace Match

def Enclosed (hit : Match) : Prop :=
  ∀ slot ∈ hit.slots, hit.span.start ≤ slot.2 ∧ slot.2 ≤ hit.span.stop

theorem Enclosed.slice_group? {hit : Match} (h : hit.Enclosed) {index : Nat} {span : Span}
    (hgroup : hit.group? index = some span) (text : Text) :
    span.slice text <:+: hit.span.slice text := by
  have held {slot place : Nat} (hlookup : hit.slots.lookup slot = some place) :
      hit.span.start ≤ place ∧ place ≤ hit.span.stop := by
    obtain ⟨before, after, heq, -⟩ := List.lookup_eq_some_iff.mp hlookup
    exact h (slot, place) (by rw [heq]; simp)
  rw [group?] at hgroup
  split at hgroup
  · obtain rfl := Option.some.inj hgroup
    exact List.infix_rfl
  · obtain ⟨start, hstart, hgroup⟩ := Option.bind_eq_some_iff.mp hgroup
    obtain ⟨stop, hstop, hgroup⟩ := Option.bind_eq_some_iff.mp hgroup
    obtain rfl := Option.some.inj hgroup
    exact Span.slice_isInfix (held hstart).1 (held hstop).2 text

end Match

namespace Template

theorem plain_mem_ofLabel_cons {c : Char} {label : Text} {more : List Piece}
    (h : .plain c ∈ Piece.ofLabel label :: more) : .plain c ∈ more := by
  refine (List.mem_cons.mp h).resolve_left fun heq => ?_
  simp only [Piece.ofLabel] at heq
  split at heq <;> cases heq

theorem mem_cons_of_plain_mem {c d : Char} {more : List Piece} {rest : Text}
    (h : .plain c ∈ Piece.plain d :: more) (hmore : .plain c ∈ more → c ∈ rest) : c ∈ d :: rest := by
  rcases List.mem_cons.mp h with heq | h
  · rw [Piece.plain.inj heq]
    exact List.mem_cons_self
  · exact List.mem_cons_of_mem d (hmore h)

theorem mem_of_plain_mem_pieces {c : Char} {fuel : Nat} {template : Text}
    (h : .plain c ∈ pieces fuel template) : c ∈ template := by
  fun_induction pieces fuel template with
  | case1 => cases h
  | case2 => cases h
  | case3 fuel rest ih => exact mem_cons_of_plain_mem h fun h => List.mem_cons_of_mem _ (ih h)
  | case4 fuel rest label after hs ih =>
    obtain rfl := Text.splitOnce?_eq_some hs
    have hmem := ih (plain_mem_ofLabel_cons h)
    simp [hmem]
  | case5 fuel rest _ ih => exact mem_cons_of_plain_mem h ih
  | case6 fuel rest _ _ label _ ih => exact mem_cons_of_plain_mem h ih
  | case7 fuel rest _ _ label _ ih =>
    have hmem := ih (plain_mem_ofLabel_cons h)
    exact List.mem_cons_of_mem _ ((List.dropWhile_sublist _).subset hmem)
  | case8 fuel d rest _ _ _ ih => exact mem_cons_of_plain_mem h ih

/-- A template that is filled in has no characters but its own and those that the match covers. -/
theorem mem_of_mem_expand {c : Char} {regex : Regex} {template text : Text} {hit : Match}
    (hhit : hit.Enclosed) (h : c ∈ expand regex template hit text) :
    c ∈ template ∨ c ∈ hit.span.slice text := by
  have held {group : Option Span} (hgroup : ∀ span ∈ group, ∃ index, hit.group? index = some span)
      (hmem : c ∈ (group.map (·.slice text)).getD []) : c ∈ hit.span.slice text := by
    cases group with
    | none => cases hmem
    | some span =>
      obtain ⟨index, hindex⟩ := hgroup span rfl
      exact (hhit.slice_group? hindex text).subset hmem
  obtain ⟨piece, hpiece, hmem⟩ := List.mem_flatMap.mp h
  cases piece with
  | plain d =>
    obtain rfl := List.mem_singleton.mp hmem
    exact .inl (mem_of_plain_mem_pieces hpiece)
  | numbered index => exact .inr (held (fun span hspan => ⟨index, hspan⟩) hmem)
  | named label =>
    refine .inr (held (fun span hspan => ?_) hmem)
    obtain ⟨index, -, hindex⟩ := Option.bind_eq_some_iff.mp hspan
    exact ⟨index, hindex⟩

end Template

namespace Pattern

variable {pattern : Pattern} {text : Text}

theorem Crosses.reads {span : Span}
    (h : pattern.Crosses (Cursor.ofPlace text span.start) (Cursor.ofPlace text span.stop)) :
    pattern.Reads (Text.lastFrom none (text.take span.start)) (span.slice text)
      (text.drop span.stop) := by
  obtain ⟨covered, hrest, hpast, hreads⟩ := h
  have hstop : span.stop = span.start + covered.length := congrArg Cursor.pos hpast
  have hslice : span.slice text = covered := by
    rw [Span.slice, hstop, Nat.add_sub_cancel_left]
    exact (congrArg (·.take covered.length) hrest).trans (List.take_left ..)
  rw [hslice]
  exact hreads

theorem exists_search?_of_mem_findAll {hit : Match} (h : hit ∈ pattern.findAll text) :
    ∃ place ≤ text.length,
      Automaton.search? pattern.automaton (Cursor.ofPlace text place) = some hit := by
  obtain ⟨behind, place, resume, hplace, hprobe⟩ := exists_place_of_mem_sweep h
  refine ⟨place, hplace, ?_⟩
  unfold Automaton.probe at hprobe
  split at hprobe
  · cases hprobe
  · split at hprobe
    · cases hprobe
    · obtain ⟨rfl, -⟩ := Probe.hit.inj hprobe
      assumption

theorem reads_of_mem_findAll {hit : Match} (h : hit ∈ pattern.findAll text) :
    pattern.Reads (Text.lastFrom none (text.take hit.span.start)) (hit.span.slice text)
      (text.drop hit.span.stop) := by
  obtain ⟨place, hplace, hsearch⟩ := exists_search?_of_mem_findAll h
  exact (search?_leftmost hplace hsearch).crosses.reads

theorem enclosed_of_mem_findAll {hit : Match} (h : hit ∈ pattern.findAll text) :
    hit.Enclosed := by
  obtain ⟨place, -, hsearch⟩ := exists_search?_of_mem_findAll h
  exact Automaton.search?_slots hsearch

end Pattern

namespace Matcher

def avoids (marks : List Char) : Matcher → Bool
  | literal needle => needle.all fun c => !marks.contains c
  | regex expr => expr.pattern.avoids marks
  | lines block => (blockText block).all fun c => !marks.contains c
  | braced _ => false

theorem disjoint_of_all {marks : List Char} {text : Text}
    (h : (text.all fun c => !marks.contains c) = true) : text.Disjoint marks := by
  intro c hc hmark
  have hnot := List.all_eq_true.mp h c hc
  simp [hmark] at hnot

theorem slice_of_mem_sweep_text {needle text : Text} {accepts : Cursor → Text → Bool} {span : Span}
    (h : span ∈ sweep (textProbe needle accepts) text) : span.slice text = needle := by
  obtain ⟨behind, place, resume, hplace, hprobe⟩ := exists_place_of_mem_sweep h
  unfold textProbe at hprobe
  split at hprobe
  next hfound =>
    obtain ⟨rfl, -⟩ := Probe.hit.inj hprobe
    simp only [Cursor.ofPlace, Bool.and_eq_true, List.isPrefixOf_iff_prefix] at hfound ⊢
    obtain ⟨after, hafter⟩ := hfound.1.2
    rw [Span.slice, Nat.add_sub_cancel_left, ← hafter, List.take_left]
  next => cases hprobe

theorem disjoint_of_mem_spans {matcher : Matcher} {marks : List Char} {text : Text} {span : Span}
    (ha : matcher.avoids marks = true) (hspan : span ∈ matcher.spans text) :
    (span.slice text).Disjoint marks := by
  cases matcher with
  | literal needle =>
    rw [slice_of_mem_sweep_text hspan]
    exact disjoint_of_all ha
  | regex expr =>
    obtain ⟨hit, hhit, rfl⟩ := List.mem_map.mp hspan
    exact (Pattern.reads_of_mem_findAll hhit).disjoint ha
  | lines block =>
    rw [slice_of_mem_sweep_text hspan]
    exact disjoint_of_all ha
  | braced header => cases ha

end Matcher

def Replacement.Avoids (marks : List Char) : Replacement → Prop
  | template text => text.Disjoint marks
  | computed f => ∀ {found}, found.Disjoint marks → (f found).Disjoint marks

theorem Replacement.Avoids.acts {marks : List Char} {new : Replacement} (h : new.Avoids marks)
    {found : Text} (hfound : found.Disjoint marks) : (new.acts found).Disjoint marks := by
  cases new with
  | template text => exact h
  | computed f => exact h hfound

theorem Replacement.Avoids.fill {marks : List Char} {new : Replacement} (h : new.Avoids marks)
    {expr : Regex} {hit : Match} {text : Text} (hhit : hit.Enclosed)
    (hfound : (hit.span.slice text).Disjoint marks) : (new.fill expr hit text).Disjoint marks := by
  cases new with
  | template template =>
    intro c hc hmark
    exact (Template.mem_of_mem_expand hhit hc).elim (h · hmark) (hfound · hmark)
  | computed f => exact h hfound

namespace Matcher

def edits (matcher : Matcher) (new : Replacement) (scope : Scope) (text : Text) :
    List (Span × Text) :=
  match matcher with
  | regex expr =>
    (scope.pick (expr.pattern.findAll text)).map fun hit => (hit.span, new.fill expr hit text)
  | _ => new.edits text (scope.pick (matcher.spans text))

variable {matcher : Matcher} {new : Replacement} {scope : Scope} {text : Text}

theorem getD_replace? : (matcher.replace? new scope text).getD text =
    splice text (matcher.edits new scope text) := by
  cases matcher with
  | regex expr => exact getD_replace?_regex expr new scope text
  | literal needle => exact new.getD_splice? text _
  | lines block => exact new.getD_splice? text _
  | braced header => exact new.getD_splice? text _

theorem edits_spans : (matcher.edits new scope text).map (·.1) =
    scope.pick (matcher.spans text) := by
  have hedits (spans : List Span) : (new.edits text spans).map (·.1) = spans := by
    simp [Replacement.edits, Function.comp_def]
  cases matcher with
  | regex expr => simp [edits, spans, Scope.pick_map, Function.comp_def]
  | literal needle => exact hedits _
  | lines block => exact hedits _
  | braced header => exact hedits _

theorem mem_spans_of_mem_edits {edit : Span × Text} (h : edit ∈ matcher.edits new scope text) :
    edit.1 ∈ matcher.spans text := by
  have hmem := List.mem_map_of_mem (f := (·.1)) h
  rw [edits_spans] at hmem
  exact scope.mem_of_mem_pick hmem

theorem disjoint_of_mem_edits {marks : List Char} (ha : matcher.avoids marks = true)
    (hn : new.Avoids marks) {edit : Span × Text} (h : edit ∈ matcher.edits new scope text) :
    edit.2.Disjoint marks := by
  have hcovered := disjoint_of_mem_spans ha (mem_spans_of_mem_edits h)
  cases matcher with
  | regex expr =>
    obtain ⟨hit, hhit, rfl⟩ := List.mem_map.mp h
    exact hn.fill (Pattern.enclosed_of_mem_findAll (scope.mem_of_mem_pick hhit)) hcovered
  | _ =>
    obtain ⟨span, -, rfl⟩ := List.mem_map.mp h
    exact hn.acts hcovered

end Matcher

inductive Edited (allowed : Text → Text → Prop) : Text → Text → Prop where
  | rest (kept : Text) : Edited allowed kept kept
  | edit {found fresh text out : Text} (gap : Text) (fits : allowed found fresh)
    (more : Edited allowed text out) :
    Edited allowed (gap ++ (found ++ text)) (gap ++ (fresh ++ out))

namespace Edited

variable {allowed : Text → Text → Prop} {text out : Text}

theorem imp {allowed' : Text → Text → Prop} (h : Edited allowed text out)
    (himp : ∀ {found fresh}, allowed found fresh → allowed' found fresh) :
    Edited allowed' text out := by
  induction h with
  | rest kept => exact .rest kept
  | edit gap fits _ ih => exact .edit gap (himp fits) ih

/-- Splicing edits that ascend is one pass. The text in hand stands behind `front`. -/
theorem of_spliceFrom {edits : List (Span × Text)}
    (h : ∀ edit ∈ edits, allowed (edit.1.slice text) edit.2) : ∀ {front rest : Text},
      text = front ++ rest → Span.Ordered front.length text.length (edits.map (·.1)) →
        Edited allowed rest (spliceFrom front.length rest edits) := by
  induction edits with
  | nil => exact fun _ _ => .rest _
  | cons edit edits ih =>
    intro front rest htext hordered
    obtain ⟨span, new⟩ := edit
    obtain ⟨hfits, hmore⟩ := List.forall_mem_cons.mp h
    obtain ⟨gap, covered, after, rfl, rfl, hspan, hsplice⟩ := spliceFrom_span htext hordered
    have hafter : text = front ++ gap ++ span.slice text ++ after := by
      simpa only [List.append_assoc] using htext
    have hpassed : (front ++ gap ++ span.slice text).length = span.stop := by
      rw [List.length_append, List.length_append]
      exact (congrArg Span.stop hspan).symm
    rw [hsplice]
    exact .edit gap hfits (ih hmore hafter (hpassed ▸ hordered.2.2))

theorem splitOn_edit {mark : Char} {found fresh : Text} (fits : allowed found fresh)
    (hfound : mark ∉ found) (hfresh : mark ∉ fresh)
    (h : List.Forall₂ (Edited allowed) (text.splitOn mark) (out.splitOn mark)) (gap : Text) :
    List.Forall₂ (Edited allowed) ((gap ++ (found ++ text)).splitOn mark)
      ((gap ++ (fresh ++ out)).splitOn mark) := by
  -- behind the last mark of the gap, the piece joins the first part of what follows it
  induction gap using Text.mark_induction mark with
  | last gap hgap =>
    have hbefore : mark ∉ gap ++ found := by simp [hgap, hfound]
    have hafter : mark ∉ gap ++ fresh := by simp [hgap, hfresh]
    obtain ⟨head, tail, htext, hold⟩ := Text.splitOn_append hbefore text
    obtain ⟨head', tail', hout, hnew⟩ := Text.splitOn_append hafter out
    rw [htext, hout] at h
    obtain ⟨hhead, htail⟩ := List.forall₂_cons.mp h
    rw [← List.append_assoc, ← List.append_assoc, hold, hnew, List.append_assoc, List.append_assoc]
    exact .cons (.edit gap fits hhead) htail
  | cons segment gap hsegment ih =>
    rw [List.append_assoc, List.append_assoc, List.cons_append, List.cons_append,
      List.splitOn_append_cons_self, List.splitOn_append_cons_self,
      List.splitOn_eq_singleton hsegment]
    exact .cons (.rest segment) ih

/-- If there is no mark in the pieces and in what comes in their place, then each part between marks
becomes one part. -/
theorem splitOn (h : Edited allowed text out) (mark : Char)
    (hallowed : ∀ {found fresh}, allowed found fresh → mark ∉ found ∧ mark ∉ fresh) :
    List.Forall₂ (Edited allowed) (text.splitOn mark) (out.splitOn mark) := by
  induction h with
  | rest kept => exact List.forall₂_same.mpr fun part _ => .rest part
  | edit gap fits _ ih => exact splitOn_edit fits (hallowed fits).1 (hallowed fits).2 ih gap

end Edited

theorem Matcher.edited {matcher : Matcher} {new : Replacement} {scope : Scope} {text : Text} :
    Edited (fun found fresh => ∃ edit ∈ matcher.edits new scope text,
        found = edit.1.slice text ∧ fresh = edit.2) text
      ((matcher.replace? new scope text).getD text) := by
  have hordered : Span.Ordered 0 text.length ((matcher.edits new scope text).map (·.1)) := by
    rw [edits_spans]
    exact (matcher.spans_ordered text).pick scope
  rw [getD_replace?]
  exact .of_spliceFrom (fun edit hedit => ⟨edit, hedit, rfl, rfl⟩) (List.nil_append text).symm
    hordered

namespace Rule

/-- The rule replaces matches within lines: no span covers a line break, and each line of the text
becomes one line, in which only what spans cover has been replaced. -/
structure Linewise (rule : Rule) (text : Text) : Prop where
  unbroken : ∀ span ∈ rule.matcher.spans text, (span.slice text).Disjoint lineBreaks
  lines : ∀ mark ∈ lineBreaks, List.Forall₂
    (Edited fun found _ => ∃ span ∈ rule.matcher.spans text, found = span.slice text)
    (text.splitOn mark) ((rule.apply text).splitOn mark)

structure Unbroken (rule : Rule) : Prop where
  matcher : rule.matcher.avoids lineBreaks = true
  action : ∃ new scope, rule.action = .replace new scope ∧ new.Avoids lineBreaks

theorem Unbroken.linewise {rule : Rule} (h : rule.Unbroken) (text : Text) : rule.Linewise text where
  unbroken span hspan := Matcher.disjoint_of_mem_spans h.matcher hspan
  lines mark hmark := by
    obtain ⟨new, scope, haction, hnew⟩ := h.action
    by_cases hg : rule.guard.holds text = true
    · have hclear {found fresh : Text} (hedited : ∃ edit ∈ rule.matcher.edits new scope text,
          found = edit.1.slice text ∧ fresh = edit.2) : mark ∉ found ∧ mark ∉ fresh := by
        obtain ⟨edit, hedit, rfl, rfl⟩ := hedited
        have hspan := Matcher.mem_spans_of_mem_edits hedit
        exact ⟨(Matcher.disjoint_of_mem_spans h.matcher hspan · hmark),
          (Matcher.disjoint_of_mem_edits h.matcher hnew hedit · hmark)⟩
      rw [apply_of_replace haction hg]
      refine (Matcher.edited.splitOn mark hclear).imp fun _ _ hline => hline.imp ?_
      rintro found fresh ⟨edit, hedit, rfl, -⟩
      exact ⟨edit.1, Matcher.mem_spans_of_mem_edits hedit, rfl⟩
    · rw [apply_of_guard_false (by simpa using hg)]
      exact List.forall₂_same.mpr fun line _ => .rest line

end Rule

end Recast
