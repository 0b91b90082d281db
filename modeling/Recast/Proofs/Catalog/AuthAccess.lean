import Recast.Proofs.Catalog.Form
import Recast.Proofs.Pattern.Walls
import Recast.Proofs.Text

/-! Accesses to auth. An access has a receiver, as in `state.auth.`, or stands on its own, and one
match covers an access with its receiver. Routing the bare accesses through the shared state leaves
none of them, and a text that needs no routing still needs none after a change that does not touch
words and dots. -/

namespace Recast.Catalog

open Pattern

def bareAccess : Text := Text.spell "auth."

def heldAccess : Text := Text.spell ".auth."

structure IsName (name : Text) : Prop where
  nonempty : name ≠ []
  word : ∀ c ∈ name, Text.isWord c = true

theorem IsName.wordy {name : Text} (h : IsName name) (rest : Text) :
    Text.wordy (name ++ rest).head? = true := by
  obtain ⟨c, name, rfl⟩ := List.exists_cons_of_ne_nil h.nonempty
  exact h.word c List.mem_cons_self

theorem IsName.wordy_last {name : Text} (h : IsName name) (prev : Option Char) :
    Text.wordy (Text.lastFrom prev name) = true := by
  rw [Text.lastFrom_eq_getLast? h.nonempty, List.getLast?_eq_some_getLast h.nonempty]
  exact h.word _ (List.getLast_mem h.nonempty)

theorem auth_word : ∀ c ∈ Text.spell "auth", Text.isWord c = true :=
  List.all_eq_true.mp (by decide)

theorem holds_wordEdge (prev : Option Char) (rest : Text) :
    (Look.wordEdge .unicode).holds ⟨0, prev, rest⟩ = (Text.wordy prev != Text.wordy rest.head?) :=
  rfl

section

variable {prev : Option Char} {text rest : Text}

theorem reads_bareAuth :
    Form.bareAuth.Reads prev text rest ↔ Text.wordy prev = false ∧ text = bareAccess := by
  constructor
  · intro h
    obtain ⟨_, right, rfl, hlook, hlit⟩ := reads_seq.mp h
    obtain ⟨rfl, hedge⟩ := reads_look.mp hlook
    obtain ⟨dot, rfl, hdot⟩ := reads_lit.mp hlit
    obtain ⟨c, rfl, hc⟩ := reads_char.mp hdot
    rw [CharClass.has_single.mp hc]
    have hletter : Text.wordy (some 'a') = true := by decide
    change (Text.wordy prev != Text.wordy (some 'a')) = true at hedge
    rw [hletter] at hedge
    exact ⟨by simpa using hedge, rfl⟩
  · rintro ⟨hprev, rfl⟩
    refine reads_seq.mpr ⟨[], bareAccess, rfl, reads_look.mpr ⟨rfl, ?_⟩, ?_⟩
    · rw [holds_wordEdge, hprev]
      rfl
    · exact reads_lit.mpr ⟨['.'], rfl, reads_char.mpr ⟨'.', rfl, by decide⟩⟩

theorem reads_heldAuth :
    (seq Form.receiver Form.bareAuth).Reads prev text rest ↔
      Text.wordy prev = false ∧ ∃ name, IsName name ∧ text = name ++ heldAccess := by
  constructor
  · intro h
    obtain ⟨left, right, rfl, hleft, hright⟩ := reads_seq.mp h
    obtain ⟨_, rfl⟩ := reads_bareAuth.mp hright
    obtain ⟨_, more, rfl, hlook, hmore⟩ := reads_seq.mp hleft
    obtain ⟨rfl, hedge⟩ := reads_look.mp hlook
    obtain ⟨name, dot, rfl, hname, hdot⟩ := reads_seq.mp hmore
    obtain ⟨c, rfl, hc⟩ := reads_char.mp hdot
    obtain ⟨hpositive, hword⟩ := reads_many.mp hname
    have hisName : IsName name := ⟨List.length_pos_iff.mp hpositive, hword⟩
    rw [CharClass.has_single.mp hc]
    refine ⟨?_, name, hisName, by simp [heldAccess, bareAccess, Text.spell]⟩
    rw [holds_wordEdge, List.append_assoc, hisName.wordy] at hedge
    simpa using hedge
  · rintro ⟨hprev, name, hname, rfl⟩
    refine reads_seq.mpr ⟨name ++ ['.'], bareAccess, by simp [heldAccess, bareAccess, Text.spell],
      ?_, reads_bareAuth.mpr ⟨?_, rfl⟩⟩
    · refine reads_seq.mpr ⟨[], name ++ ['.'], rfl, reads_look.mpr ⟨rfl, ?_⟩, ?_⟩
      · rw [holds_wordEdge, hprev, List.append_assoc, hname.wordy]
        rfl
      · exact reads_seq.mpr ⟨name, ['.'], rfl,
          reads_many.mpr ⟨List.length_pos_iff.mpr hname.nonempty, hname.word⟩,
          reads_char.mpr ⟨'.', rfl, by decide⟩⟩
    · have hdot : Text.wordy (some '.') = false := by decide
      rw [Text.lastFrom_append]
      exact hdot

theorem isName_state : IsName (Text.spell "state") :=
  ⟨by decide, List.all_eq_true.mp (by decide)⟩

theorem reads_stateAuth :
    Form.stateAuth.pattern.Reads prev text rest ↔
      Text.wordy prev = false ∧ text = Text.spell "state" ++ heldAccess := by
  have hedge (tail : Text) : (Look.wordEdge .unicode).holds ⟨0, prev, Text.spell "state" ++ tail⟩ =
      !Text.wordy prev := by
    rw [holds_wordEdge, isName_state.wordy, Bool.bne_true]
  constructor
  · intro h
    obtain ⟨_, _, rfl, hlook, hlit⟩ := reads_seq.mp h
    obtain ⟨rfl, hprev⟩ := reads_look.mp hlook
    obtain ⟨dot, rfl, hdot⟩ := reads_lit.mp hlit
    obtain ⟨c, rfl, hc⟩ := reads_char.mp hdot
    rw [CharClass.has_single.mp hc]
    exact ⟨by simpa using (hedge (Text.spell ".auth" ++ c :: rest)).symm.trans hprev, rfl⟩
  · rintro ⟨hprev, rfl⟩
    refine reads_seq.mpr ⟨[], _, rfl, reads_look.mpr ⟨rfl, ?_⟩, ?_⟩
    · have hholds := hedge (heldAccess ++ rest)
      rw [hprev] at hholds
      exact hholds
    · exact reads_lit.mpr ⟨['.'], rfl, reads_char.mpr ⟨'.', rfl, by decide⟩⟩

theorem reads_authAccess :
    Form.authAccess.pattern.Reads prev text rest ↔
      Text.wordy prev = false ∧
        (text = bareAccess ∨ ∃ name, IsName name ∧ text = name ++ heldAccess) := by
  rw [and_or_left, ← @reads_bareAuth prev text rest, ← @reads_heldAuth prev text rest]
  constructor
  · intro h
    obtain ⟨left, right, rfl, hleft, hright⟩ := reads_seq.mp h
    rcases reads_optional.mp hleft with rfl | hleft
    · exact .inl hright
    · exact .inr (reads_seq.mpr ⟨left, right, rfl, hleft, hright⟩)
  · rintro (h | h)
    · exact reads_seq.mpr ⟨[], text, rfl, reads_optional.mpr (.inl rfl), h⟩
    · obtain ⟨left, right, rfl, hleft, hright⟩ := reads_seq.mp h
      exact reads_seq.mpr ⟨left, right, rfl, reads_optional.mpr (.inr hleft), hright⟩

theorem not_prefix_bare {name : Text} (h : IsName name) (hne : name ≠ Text.spell "auth")
    (tail : Text) : ¬ bareAccess <+: name ++ heldAccess ++ tail := by
  rintro ⟨more, heq⟩
  rw [List.append_assoc] at heq
  exact hne (Text.append_cons_inj auth_word (by decide) h.word (by decide) heq).1.symm

theorem width?_held {name : Text} (h : IsName name) (hprev : Text.wordy prev = false)
    (tail : Text) :
    Form.authAccess.pattern.width? prev (name ++ heldAccess ++ tail) =
      some (name ++ heldAccess).length := by
  have hheld : (seq Form.receiver Form.bareAuth).width? prev (name ++ heldAccess ++ tail) =
      some (name ++ heldAccess).length := by
    refine width?_of_reads (reads_heldAuth.mpr ⟨hprev, name, h, rfl⟩) ?_
    intro first more heq hreads
    obtain ⟨_, other, hother, rfl⟩ := reads_heldAuth.mp hreads
    rw [List.append_assoc, List.append_assoc] at heq
    rw [(Text.append_cons_inj h.word (by decide) hother.word (by decide) heq).1]
  exact (width?_optional prev _).trans (by rw [hheld, Option.some_or])

/-- Without a receiver the match is the access alone, unless it is the receiver of another one. -/
theorem width?_bare (hprev : Text.wordy prev = false) {tail : Text}
    (htail : ¬ bareAccess <+: tail) :
    Form.authAccess.pattern.width? prev (bareAccess ++ tail) = some bareAccess.length := by
  have hheld : (seq Form.receiver Form.bareAuth).width? prev (bareAccess ++ tail) = none := by
    refine width?_eq_none_iff_reads.mpr fun first more heq hreads => ?_
    obtain ⟨_, name, hname, rfl⟩ := reads_heldAuth.mp hreads
    rw [List.append_assoc] at heq
    exact htail ⟨more, (Text.append_cons_inj auth_word (by decide) hname.word (by decide) heq).2.2.symm⟩
  have hbare : Form.bareAuth.width? prev (bareAccess ++ tail) = some bareAccess.length := by
    refine width?_of_reads (reads_bareAuth.mpr ⟨hprev, rfl⟩) fun first more _ hreads => ?_
    rw [(reads_bareAuth.mp hreads).2]
  exact (width?_optional prev _).trans (by rw [hheld, hbare, Option.none_or])

theorem routeAuth_bare : routeAuth bareAccess = Text.spell "state" ++ heldAccess := by
  have hbare : bareAccess = "auth.".toList := Text.spell_eq _
  rw [routeAuth, if_pos hbare, String.toList_ofList]
  rfl

theorem routeAuth_held {name : Text} (h : IsName name) :
    routeAuth (name ++ heldAccess) = name ++ heldAccess := by
  have hbare : bareAccess = "auth.".toList := Text.spell_eq _
  rw [routeAuth, if_neg]
  intro heq
  rw [← hbare] at heq
  have hlength := congrArg List.length heq
  have hpositive := List.length_pos_iff.mpr h.nonempty
  rw [List.length_append] at hlength
  have hlong : heldAccess.length = bareAccess.length + 1 := rfl
  omega

theorem routeAuth_reads {found : Text} (h : Form.authAccess.pattern.Reads prev found rest) :
    Text.wordy prev = false ∧ ∃ name, IsName name ∧ routeAuth found = name ++ heldAccess ∧
      (found = bareAccess ∧ name = Text.spell "state" ∨ found = name ++ heldAccess) := by
  obtain ⟨hprev, rfl | ⟨name, hname, rfl⟩⟩ := reads_authAccess.mp h
  · exact ⟨hprev, _, isName_state, routeAuth_bare, .inl ⟨rfl, rfl⟩⟩
  · exact ⟨hprev, name, hname, routeAuth_held hname, .inr rfl⟩

/-- A text whose last character is no part of a word, cut at the first such character. -/
theorem exists_cut {text : Text} (hne : text ≠ [])
    (hlast : Text.wordy (Text.lastFrom prev text) = false) :
    ∃ word c more, text = word ++ c :: more ∧ (∀ d ∈ word, Text.isWord d = true) ∧
      Text.isWord c = false ∧ (more ≠ [] → Text.wordy (Text.lastFrom none more) = false) := by
  induction text generalizing prev with
  | nil => exact absurd rfl hne
  | cons c text ih =>
    by_cases hc : Text.isWord c = true
    · have htext : text ≠ [] := by
        rintro rfl
        rw [Text.lastFrom, Text.lastFrom, Text.wordy, Option.any_some, hc] at hlast
        cases hlast
      obtain ⟨word, d, more, rfl, hword, hd⟩ := ih htext hlast
      refine ⟨c :: word, d, more, rfl, ?_, hd⟩
      intro e he
      rcases List.mem_cons.mp he with rfl | he
      · exact hc
      · exact hword e he
    · refine ⟨[], c, text, rfl, by simp, Bool.eq_false_iff.mpr hc, fun hmore => ?_⟩
      rwa [Text.lastFrom, Text.lastFrom_eq_getLast? hmore, ← Text.lastFrom_eq_getLast? hmore none]
        at hlast

/-- A match that begins before a place where no word goes on and ends behind it has its receiver
before that place. -/
theorem access_across {first right gap : Text} (hne : right ≠ []) (hgap : gap ≠ [])
    (hlast : Text.wordy (Text.lastFrom prev right) = false) (hcut : first = right ++ gap)
    (h : first = bareAccess ∨ ∃ name, IsName name ∧ first = name ++ heldAccess) :
    ∃ name, IsName name ∧ right = name ++ ['.'] ∧ gap = bareAccess := by
  obtain ⟨word, c, more, rfl, hword, hc, hmore⟩ := exists_cut hne hlast
  rw [List.append_assoc, List.cons_append] at hcut
  rcases h with rfl | ⟨name, hname, rfl⟩
  · have hbare : Text.spell "auth" ++ '.' :: [] = word ++ c :: (more ++ gap) := hcut
    have hnil := (Text.append_cons_inj auth_word (by decide) hword hc hbare).2.2
    exact absurd (List.append_eq_nil_iff.mp hnil.symm).2 hgap
  · have hheld : name ++ '.' :: bareAccess = word ++ c :: (more ++ gap) := hcut
    obtain ⟨rfl, rfl, hrest⟩ := Text.append_cons_inj hname.word (by decide) hword hc hheld
    by_cases hnil : more = []
    · subst hnil
      exact ⟨name, hname, rfl, hrest.symm⟩
    · -- What lies between the receiver and the place would end inside the word `auth`.
      obtain ⟨word', d, more', rfl, hword', hd, _⟩ := exists_cut hnil (hmore hnil)
      rw [List.append_assoc] at hrest
      have hrest : Text.spell "auth" ++ '.' :: [] = word' ++ d :: (more' ++ gap) := hrest
      have hempty := (Text.append_cons_inj auth_word (by decide) hword' hd hrest).2.2
      exact absurd (List.append_eq_nil_iff.mp hempty.symm).2 hgap

theorem first_routed {before found after : Text}
    (h : Form.authAccess.pattern.First prev text before found after) (out : Text) :
    Form.authAccess.pattern.First prev (before ++ (routeAuth found ++ out)) before
      (routeAuth found) out := by
  obtain ⟨hprev, name, hname, hroute, hshape⟩ := routeAuth_reads h.reads
  refine ⟨rfl, ?_, ?_⟩
  · rw [hroute]
    exact width?_held hname hprev out
  · intro left right heq hne
    have hnone := width?_eq_none_iff_reads.mp (h.earlier left right heq hne)
    refine width?_eq_none_iff_reads.mpr fun first more hcut hreads => ?_
    obtain ⟨hp, hfirst⟩ := reads_authAccess.mp hreads
    rw [heq, Text.lastFrom_append] at hprev
    have inside (gap : Text) (hright : right = first ++ gap) : False := by
      refine hnone first (gap ++ (found ++ after)) ?_ (reads_authAccess.mpr ⟨hp, hfirst⟩)
      rw [hright, List.append_assoc]
    rcases List.append_eq_append_iff.mp hcut with ⟨gap, hgap, hrest⟩ | ⟨gap, hgap, hrest⟩
    · by_cases hnil : gap = []
      · exact inside [] (by rw [hgap, hnil, List.append_nil, List.append_nil])
      · obtain ⟨receiver, hreceiver, rfl, rfl⟩ := access_across hne hnil hprev hgap hfirst
        have hauth : name = Text.spell "auth" := by
          refine Decidable.byContradiction fun hother => not_prefix_bare hname hother out ?_
          rw [← hroute]
          exact ⟨more, hrest.symm⟩
        rcases hshape with ⟨_, rfl⟩ | rfl
        · exact absurd hauth (by decide)
        · refine hnone (receiver ++ heldAccess) (bareAccess ++ after) ?_
            (reads_authAccess.mpr ⟨hp, .inr ⟨receiver, hreceiver, rfl⟩⟩)
          rw [hauth]
          simp [heldAccess, bareAccess, Text.spell]
    · exact inside gap hgap

/-- After routing, no access needs routing. -/
theorem rewrite_routed (text : Text) (prev : Option Char) :
    Form.authAccess.pattern.rewriteFrom routeAuth 0 prev
        (Form.authAccess.pattern.rewriteFrom routeAuth 0 prev text) =
      Form.authAccess.pattern.rewriteFrom routeAuth 0 prev text := by
  induction prev, text using first_induction Form.authAccess.consumes with
  | quiet prev text hquiet => rw [rewriteFrom_of_not_occurs hquiet, rewriteFrom_of_not_occurs hquiet]
  | first prev text before found after hfirst hne hagain =>
    obtain ⟨_, name, hname, hroute, hshape⟩ := routeAuth_reads hfirst.reads
    have hlast : Text.lastFrom prev (before ++ routeAuth found) =
        Text.lastFrom prev (before ++ found) := by
      rw [hroute]
      rcases hshape with ⟨rfl, _⟩ | rfl
      · simp only [Text.lastFrom_append]
        rfl
      · rfl
    have hrouted : routeAuth found ≠ [] := by
      rw [hroute]
      simp [hname.nonempty]
    rw [hfirst.rewriteFrom hne, (first_routed hfirst _).rewriteFrom hrouted, hlast, hagain, hroute,
      routeAuth_held hname]

end

/-- A character that no access contains. -/
def isFence (c : Char) : Bool := !Text.isWord c && c != '.'

theorem not_isFence_of_reads {prev : Option Char} {found rest : Text}
    (h : Form.authAccess.pattern.Reads prev found rest) : ∀ c ∈ found, isFence c = false := by
  have hheld : heldAccess.all (!isFence ·) = true := by decide
  have hnone : ∀ c ∈ heldAccess, isFence c = false := by simpa using hheld
  obtain ⟨_, rfl | ⟨name, hname, rfl⟩⟩ := reads_authAccess.mp h
  · exact fun c hc => hnone c (List.mem_cons_of_mem _ hc)
  · intro c hc
    rcases List.mem_append.mp hc with hc | hc
    · simp [isFence, hname.word c hc]
    · exact hnone c hc

theorem reads_before_fence {prev : Option Char} {text found rest more : Text} {c : Char}
    (hc : isFence c = true) (h : Form.authAccess.pattern.Reads prev found rest)
    (hcut : text ++ c :: more = found ++ rest) : ∃ gap, text = found ++ gap := by
  rcases List.append_eq_append_iff.mp hcut with ⟨gap, rfl, hgap⟩ | ⟨gap, rfl, _⟩
  · cases gap with
    | nil => exact ⟨[], by simp⟩
    | cons d gap =>
      obtain ⟨rfl, _⟩ := List.cons.inj hgap
      rw [not_isFence_of_reads h c (by simp)] at hc
      cases hc
  · exact ⟨gap, rfl⟩

structure Single (kind : Pattern) : Prop where
  access : ∀ {prev found rest}, kind.Reads prev found rest →
    Form.authAccess.pattern.Reads prev found rest
  same : ∀ {prev prev' found rest} (rest'), Text.wordy prev = Text.wordy prev' →
    kind.Reads prev found rest → kind.Reads prev' found rest'
  only : ∀ {prev found rest found' rest'}, found ++ rest = found' ++ rest' →
    kind.Reads prev found rest → kind.Reads prev found' rest' → found'.length = found.length

theorem single_bare : Single Form.bareAuth where
  access h := reads_authAccess.mpr ⟨(reads_bareAuth.mp h).1, .inl (reads_bareAuth.mp h).2⟩
  same rest' hprev h := by
    obtain ⟨hp, rfl⟩ := reads_bareAuth.mp h
    exact reads_bareAuth.mpr ⟨hprev ▸ hp, rfl⟩
  only _ h h' := by rw [(reads_bareAuth.mp h).2, (reads_bareAuth.mp h').2]

theorem single_held : Single (seq Form.receiver Form.bareAuth) where
  access h := reads_authAccess.mpr ⟨(reads_heldAuth.mp h).1, .inr (reads_heldAuth.mp h).2⟩
  same rest' hprev h := by
    obtain ⟨hp, hheld⟩ := reads_heldAuth.mp h
    exact reads_heldAuth.mpr ⟨hprev ▸ hp, hheld⟩
  only heq h h' := by
    obtain ⟨_, name, hname, rfl⟩ := reads_heldAuth.mp h
    obtain ⟨_, name', hname', rfl⟩ := reads_heldAuth.mp h'
    rw [List.append_assoc, List.append_assoc] at heq
    rw [(Text.append_cons_inj hname.word (by decide) hname'.word (by decide) heq).1]

section

variable {prev prev' : Option Char} {text more : Text} {c d : Char}

theorem Single.width?_eq {kind : Pattern} (h : Single kind) {found rest : Text}
    (hprev : Text.wordy prev = Text.wordy prev') (hreads : kind.Reads prev found rest)
    (rest' : Text) : kind.width? prev' (found ++ rest') = some found.length :=
  have hreads' := h.same rest' hprev hreads
  width?_of_reads hreads' fun _ _ heq hfirst => h.only heq hreads' hfirst

theorem Single.width?_fence {kind : Pattern} (h : Single kind) (hc : isFence c = true)
    (hprev : Text.wordy prev = Text.wordy prev') {n : Nat}
    (hn : kind.width? prev (text ++ c :: more) = some n) (more' : Text) :
    kind.width? prev' (text ++ d :: more') = some n := by
  have hreads := reads_of_width? hn
  have hcut := List.take_append_drop n (text ++ c :: more)
  obtain ⟨gap, hgap⟩ := reads_before_fence hc (h.access hreads) hcut.symm
  have hwidth := h.width?_eq hprev hreads (gap ++ d :: more')
  rw [← List.append_assoc, ← hgap, List.length_take, Nat.min_eq_left (width?_le hn)] at hwidth
  exact hwidth

theorem Single.width?_congr {kind : Pattern} (h : Single kind)
    (hprev : Text.wordy prev = Text.wordy prev') {n : Nat} (hn : kind.width? prev text = some n) :
    kind.width? prev' text = some n := by
  have hwidth := h.width?_eq hprev (reads_of_width? hn) (text.drop n)
  rw [List.take_append_drop, List.length_take, Nat.min_eq_left (width?_le hn)] at hwidth
  exact hwidth

theorem width?_authAccess_congr {text' : Text}
    (h : ∀ {kind : Pattern}, Single kind → kind.width? prev text = kind.width? prev' text') :
    Form.authAccess.pattern.width? prev text = Form.authAccess.pattern.width? prev' text' :=
  (width?_optional prev _).trans
    ((congr (congrArg Option.or (h single_held)) (h single_bare)).trans
      (width?_optional prev' _).symm)

/-- The width of an access before a fence does not depend on the fence or what follows it. -/
theorem width?_fence (hc : isFence c = true) (hd : isFence d = true)
    (hprev : Text.wordy prev = Text.wordy prev') (more' : Text) :
    Form.authAccess.pattern.width? prev (text ++ c :: more) =
      Form.authAccess.pattern.width? prev' (text ++ d :: more') := by
  refine width?_authAccess_congr fun h => Option.ext fun n => ⟨fun hn => ?_, fun hn => ?_⟩
  · exact h.width?_fence hc hprev hn more'
  · exact h.width?_fence hd hprev.symm hn more

theorem width?_wordy (hprev : Text.wordy prev = Text.wordy prev') :
    Form.authAccess.pattern.width? prev text = Form.authAccess.pattern.width? prev' text :=
  width?_authAccess_congr fun h =>
    Option.ext fun _ => ⟨h.width?_congr hprev, h.width?_congr hprev.symm⟩

theorem width?_le_of_fence (hc : isFence c = true) {n : Nat}
    (hn : Form.authAccess.pattern.width? prev (text ++ c :: more) = some n) : n ≤ text.length := by
  have hcut := List.take_append_drop n (text ++ c :: more)
  obtain ⟨gap, hgap⟩ := reads_before_fence hc (reads_of_width? hn) hcut.symm
  have hlength := congrArg List.length hgap
  rw [List.length_append, List.length_take, Nat.min_eq_left (width?_le hn)] at hlength
  omega

end

theorem rewriteFrom_fence (text : Text) : ∀ (skip : Nat) (prev : Option Char), skip ≤ text.length →
    ∃ out, ∀ {prev' : Option Char} {c : Char} (more : Text),
      Text.wordy prev = Text.wordy prev' → isFence c = true →
        Form.authAccess.pattern.rewriteFrom routeAuth skip prev' (text ++ c :: more) =
          out ++ c :: Form.authAccess.pattern.rewriteFrom routeAuth 0 (some c) more := by
  induction text with
  | nil =>
    intro skip prev hskip
    obtain rfl : skip = 0 := Nat.le_zero.mp hskip
    refine ⟨[], fun {prev' c} more _ hc => ?_⟩
    have hnone : Form.authAccess.pattern.width? prev' (c :: more) = none := by
      refine Option.eq_none_iff_forall_ne_some.mpr fun n hn => ?_
      have hpositive := width?_pos Form.authAccess.consumes hn
      have hshort : n ≤ ([] : Text).length := width?_le_of_fence hc hn
      rw [List.length_nil] at hshort
      omega
    rw [List.nil_append, rewriteFrom, hnone]
    rfl
  | cons x text ih =>
    intro skip prev hskip
    cases skip with
    | succ skip =>
      obtain ⟨out, hout⟩ := ih skip (some x) (Nat.le_of_succ_le_succ hskip)
      exact ⟨out, fun more _ hc => hout more rfl hc⟩
    | zero =>
      cases hw : Form.authAccess.pattern.width? prev (x :: text ++ ['\n']) with
      | none =>
        obtain ⟨out, hout⟩ := ih 0 (some x) (Nat.zero_le _)
        refine ⟨x :: out, fun {prev' c} more hprev hc => ?_⟩
        rw [width?_fence (by decide) hc hprev more] at hw
        rw [List.cons_append] at hw ⊢
        rw [rewriteFrom, hw]
        exact congrArg (x :: ·) (hout more rfl hc)
      | some n =>
        have hle : n ≤ (x :: text).length := width?_le_of_fence (by decide) hw
        have hpositive := width?_pos Form.authAccess.consumes hw
        rw [List.length_cons] at hle
        obtain ⟨out, hout⟩ := ih (n - 1) (some x) (by omega)
        refine ⟨routeAuth ((x :: text).take n) ++ out, fun {prev' c} more hprev hc => ?_⟩
        rw [width?_fence (by decide) hc hprev more] at hw
        have htake : (x :: text ++ c :: more).take n = (x :: text).take n :=
          List.take_append_of_le_length hle
        rw [List.cons_append] at hw htake ⊢
        rw [rewriteFrom, hw]
        simp only [htake]
        rw [hout more rfl hc, List.append_assoc]

/-- Every access in a text has a receiver. -/
def Routed (prev : Option Char) (text : Text) : Prop :=
  Form.authAccess.pattern.rewriteFrom routeAuth 0 prev text = text

theorem length_le_routeAuth {prev : Option Char} {found rest : Text}
    (h : Form.authAccess.pattern.Reads prev found rest) :
    found.length ≤ (routeAuth found).length := by
  obtain ⟨_, name, _, hroute, ⟨rfl, rfl⟩ | rfl⟩ := routeAuth_reads h
  · rw [hroute]
    decide
  · exact Nat.le_of_eq (congrArg List.length hroute.symm)

theorem length_le_rewriteFrom (text : Text) : ∀ (skip : Nat) (prev : Option Char),
    text.length ≤ skip + (Form.authAccess.pattern.rewriteFrom routeAuth skip prev text).length := by
  induction text with
  | nil => exact fun _ _ => Nat.zero_le _
  | cons c text ih =>
    intro skip prev
    cases skip with
    | succ skip =>
      have := ih skip (some c)
      rw [List.length_cons, rewriteFrom]
      omega
    | zero =>
      cases hw : Form.authAccess.pattern.width? prev (c :: text) with
      | none =>
        have := ih 0 (some c)
        rw [rewriteFrom, hw]
        simp only [List.length_cons]
        omega
      | some n =>
        have hnext := ih (n - 1) (some c)
        have hfound := length_le_routeAuth (reads_of_width? hw)
        have hpositive := width?_pos Form.authAccess.consumes hw
        rw [List.length_take, Nat.min_eq_left (width?_le hw)] at hfound
        rw [rewriteFrom, hw]
        simp only [List.length_cons, List.length_append]
        omega

theorem routed_fence_iff (first : Text) (prev : Option Char) :
    ∃ P : Prop, ∀ {c : Char} (second : Text), isFence c = true →
      (Routed prev (first ++ c :: second) ↔ P ∧ Routed (some c) second) := by
  obtain ⟨out, hout⟩ := rewriteFrom_fence first 0 prev (Nat.zero_le _)
  have hlong : first.length ≤ out.length := by
    have hline := length_le_rewriteFrom (first ++ ['\n']) 0 prev
    rw [hout [] rfl (by decide)] at hline
    simp only [rewriteFrom, List.length_append, List.length_cons, List.length_nil] at hline
    omega
  refine ⟨out = first, fun {c} second hc => ?_⟩
  rw [Routed, hout second rfl hc]
  constructor
  · intro heq
    have hsecond := length_le_rewriteFrom second 0 (some c)
    have hlength := congrArg List.length heq
    simp only [List.length_append, List.length_cons] at hlength
    obtain ⟨hfirst, hrest⟩ := List.append_inj heq (by omega)
    exact ⟨hfirst, (List.cons.inj hrest).2⟩
  · rintro ⟨rfl, hrest⟩
    rw [hrest]

theorem Routed.wordy {prev prev' : Option Char} {text : Text} (h : Routed prev text)
    (hprev : Text.wordy prev = Text.wordy prev') : Routed prev' text := by
  cases text with
  | nil => rfl
  | cons c text =>
    rw [Routed, rewriteFrom, width?_wordy hprev] at h
    rw [Routed, rewriteFrom]
    exact h

def fenced (text : Text) : Bool := text.head?.any isFence && text.getLast?.any isFence

theorem fenced_ends {text : Text} (h : fenced text = true) :
    (∃ c rest, text = c :: rest ∧ isFence c = true) ∧
      ∃ front c, text = front ++ [c] ∧ isFence c = true := by
  obtain ⟨hhead, hlast⟩ := Bool.and_eq_true_iff.mp h
  constructor
  · cases text with
    | nil => cases hhead
    | cons c rest => exact ⟨c, rest, rfl, hhead⟩
  · rcases List.eq_nil_or_concat text with rfl | ⟨front, c, rfl⟩
    · cases hlast
    · rw [List.concat_eq_append, List.getLast?_concat] at hlast
      exact ⟨front, c, by simp, hlast⟩

/-- A piece between fences may be replaced by another one that has no access in it. -/
theorem Routed.patch {prev : Option Char} {first old new second : Text}
    (hold : fenced old = true) (hnew : fenced new = true)
    (hquiet : ∀ prev, Form.authAccess.pattern.Quiet prev new)
    (h : Routed prev (first ++ (old ++ second))) : Routed prev (first ++ (new ++ second)) := by
  obtain ⟨⟨c, old', hc, hcf⟩, front, d, hd, hdf⟩ := fenced_ends hold
  obtain ⟨⟨c', new', hc', hcf'⟩, front', d', hd', hdf'⟩ := fenced_ends hnew
  obtain ⟨P, hP⟩ := routed_fence_iff first prev
  have hbefore : P := by
    rw [hc, List.cons_append, hP _ hcf] at h
    exact h.1
  have hbehind : Routed (some d) second := by
    obtain ⟨Q, hQ⟩ := routed_fence_iff (first ++ front) prev
    rw [hd, List.append_assoc, ← List.append_assoc first] at h
    exact ((hQ second hdf).mp h).2
  have hplain (prev : Option Char) : Routed prev (new ++ second) := by
    have hlast : Text.wordy (some d) = Text.wordy (Text.lastFrom prev new) := by
      rw [hd', Text.lastFrom_append]
      simp only [isFence, Bool.and_eq_true, Bool.not_eq_true'] at hdf hdf'
      simp only [Text.wordy, Text.lastFrom, Option.any_some, hdf.1, hdf'.1]
    rw [Routed, (hquiet prev).passes second, hbehind.wordy hlast]
  obtain ⟨Q, hQ⟩ := routed_fence_iff [] none
  have hinside := hplain none
  rw [hc', List.cons_append] at hinside ⊢
  exact (hP _ hcf').mpr ⟨hbefore, ((hQ _ hcf').mp hinside).2⟩

end Recast.Catalog
