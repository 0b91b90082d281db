import Recast.Proofs.Catalog.Form
import Recast.Proofs.Signatures

/-! The rule that gives handlers the parameter for auth. It puts the parameter in behind the first pool
parameter of just those handlers whose body reaches auth through the shared state and whose signature
has the one parameter and not the other. In its own output there is no such handler. -/

namespace Recast.Catalog

open Pattern

/-- A handler that needs the parameter for auth: what stands before the first pool parameter in the
signature, what follows that there, and the body. -/
structure AuthMissing (before after body : Text) : Prop where
  signature : '\x7b' ∉ before ++ (poolParam ++ after)
  opens : body.head? = some '\x7b'
  first : ∀ front back, before ++ (poolParam ++ after) = front ++ (poolParam ++ back) →
    before.length ≤ front.length
  reaches : Text.within "state.auth.".toList body = true
  lacks : Text.within "Extension(auth)".toList (before ++ (poolParam ++ after)) = false

/-- The cut of a handler where its parameter for auth is missing. -/
def AuthCut (front back : Text) : Prop :=
  ∃ before after body, front = before ++ poolParam ∧ back = after ++ body ∧
    AuthMissing before after body

def authEntry : Text := ",\n    ".toList ++ authParam

variable {signature before after body front back : Text}

theorem authEntry_eq : authEntry = ",\n    ".toList ++ authParam := rfl

theorem injectAuth_signature (hsignature : '\x7b' ∉ signature) (hopens : body.head? = some '\x7b') :
    injectAuth (signature ++ body) =
      if !Text.within "state.auth.".toList body
          || Text.within "Extension(auth)".toList signature then signature ++ body
      else
        match Text.splitOnce? poolParam signature with
        | none => signature ++ body
        | some (before, after) => before ++ poolParam ++ authEntry ++ after ++ body := by
  obtain ⟨rest, rfl⟩ := List.head?_eq_some_iff.mp hopens
  have hcut := Text.splitBefore?_of_notin hsignature [] rest
  rw [List.nil_append] at hcut
  cases hparts : Text.splitOnce? poolParam signature <;>
    simp only [injectAuth, hcut, hparts, Option.getD_some, authEntry_eq, List.append_assoc]

theorem injectAuth_of_notin {item : Text} (h : '\x7b' ∉ item) : injectAuth item = item := by
  have hcut : Text.splitBefore? ['\x7b'] item = none := by
    rw [Text.splitBefore?_eq_none_iff, ← Bool.not_eq_true, Text.within_iff_isInfix]
    rintro ⟨front, back, rfl⟩
    exact h (by simp)
  rw [injectAuth, hcut]
  rfl

theorem AuthMissing.injectAuth_eq (h : AuthMissing before after body) :
    injectAuth (before ++ poolParam ++ (after ++ body)) =
      before ++ poolParam ++ (authEntry ++ (after ++ body)) := by
  have hcut := Text.splitOnce?_eq_some_iff.mpr ⟨rfl, h.first⟩
  have hitem : before ++ poolParam ++ (after ++ body) =
      (before ++ (poolParam ++ after)) ++ body := by simp only [List.append_assoc]
  rw [hitem, injectAuth_signature h.signature h.opens, h.reaches, h.lacks, hcut]
  simp

theorem injectAuth_putsIn : PutsIn AuthCut authEntry injectAuth where
  put := by
    rintro front back ⟨before, after, body, rfl, rfl, h⟩
    refine ⟨?_, h.injectAuth_eq⟩
    intro hnil
    obtain ⟨-, rfl⟩ := List.append_eq_nil_iff.mp hnil
    cases h.opens
  kept := by
    intro item hnone
    by_cases hopen : '\x7b' ∈ item
    · obtain ⟨signature, rest, rfl, hsignature⟩ := List.eq_append_cons_of_mem hopen
      have hopens : ('\x7b' :: rest).head? = some '\x7b' := rfl
      rw [injectAuth_signature hsignature hopens]
      split
      · rfl
      next hneeds =>
        rw [Bool.or_eq_true, not_or, Bool.not_eq_true', Bool.not_eq_false, Bool.not_eq_true] at hneeds
        cases hcut : Text.splitOnce? poolParam signature with
        | none => rfl
        | some cut =>
          obtain ⟨before, after⟩ := cut
          obtain ⟨rfl, hfirst⟩ := Text.splitOnce?_eq_some_iff.mp hcut
          refine absurd ⟨before, after, _, rfl, rfl, hsignature, hopens, hfirst, hneeds.1, hneeds.2⟩
            (hnone (before ++ poolParam) (after ++ '\x7b' :: rest) ?_)
          simp only [List.append_assoc]
    · exact injectAuth_of_notin hopen
  only := by
    rintro _ _ _ _ ⟨before, after, body, rfl, rfl, h⟩ ⟨before', after', body', rfl, rfl, h'⟩ heq
    obtain ⟨hsignature, -⟩ := Text.append_head_inj h.signature h'.signature h.opens h'.opens
      (by simpa only [List.append_assoc] using heq)
    have hlength := Nat.le_antisymm (h.first before' after' hsignature)
      (h'.first before after hsignature.symm)
    rw [(List.append_inj hsignature hlength).1]

theorem authEntry_spelled :
    authEntry = Text.spell ",\n    Extension(auth): Extension<Arc<Auth>>" := by
  have hseparator : ",\n    ".toList = Text.spell ",\n    " := (Text.spell_eq _).symm
  have hauth : authParam = Text.spell "Extension(auth): Extension<Arc<Auth>>" :=
    (Text.spell_eq _).symm
  rw [authEntry_eq, hseparator, hauth]
  decide

theorem AuthMissing.signature_edited (h : AuthMissing before after body) :
    '\x7b' ∉ before ++ (poolParam ++ (authEntry ++ after)) := by
  have hentry : '\x7b' ∉ authEntry := by
    rw [authEntry_spelled]
    decide
  have hsignature := h.signature
  simp only [List.mem_append, not_or] at hsignature ⊢
  exact ⟨hsignature.1, hsignature.2.1, hentry, hsignature.2.2⟩

theorem AuthMissing.not_authCut (h : AuthMissing before after body)
    (heq : before ++ poolParam ++ (authEntry ++ (after ++ body)) = front ++ back) :
    ¬ AuthCut front back := by
  rintro ⟨before', after', body', rfl, rfl, h'⟩
  obtain ⟨hsignature, -⟩ := Text.append_head_inj h.signature_edited h'.signature h.opens h'.opens
    (by simpa only [List.append_assoc] using heq)
  have hneedle : "Extension(auth)".toList = Text.spell "Extension(auth)" := (Text.spell_eq _).symm
  have hentry : Text.within "Extension(auth)".toList authEntry = true := by
    rw [hneedle, authEntry_spelled]
    decide
  have hwithin := Text.within_append_right (Text.within_append_right
    (Text.within_append_left hentry after) poolParam) before
  rw [hsignature, h'.lacks] at hwithin
  cases hwithin

theorem reads_handlerHeader {prev : Option Char} {found rest : Text} :
    Form.handlerHeader.pattern.Reads prev found rest ↔ ∃ name : Text,
      found = Text.spell "pub async fn " ++ name ∧ 1 ≤ name.length ∧
        ∀ c ∈ name, Text.isWord c = true := by
  constructor
  · intro h
    obtain ⟨name, rfl, hname⟩ := reads_lit.mp h
    exact ⟨name, rfl, reads_many.mp hname⟩
  · rintro ⟨name, rfl, hname⟩
    exact reads_lit.mpr ⟨name, rfl, reads_many.mpr hname⟩

theorem poolParam_length : poolParam.length = 39 := by
  have hspelled : poolParam = Text.spell "Extension(pool): Extension<Arc<PgPool>>" :=
    (Text.spell_eq _).symm
  rw [hspelled]
  rfl

theorem sees_handlerHeader : Form.handlerHeader.pattern.Sees 14 := by
  have begins (prev : Option Char) (text : Text) :
      (Form.handlerHeader.pattern.width? prev text).isSome = true ↔
        ∃ c, text.take 14 = Text.spell "pub async fn " ++ [c] ∧ Text.isWord c = true := by
    rw [width?_isSome_iff]
    constructor
    · rintro ⟨found, rest, rfl, hreads⟩
      obtain ⟨name, rfl, hlength, hword⟩ := reads_handlerHeader.mp hreads
      obtain ⟨c, name, rfl⟩ := List.exists_cons_of_length_pos hlength
      exact ⟨c, rfl, hword c List.mem_cons_self⟩
    · rintro ⟨c, htake, hword⟩
      refine ⟨text.take 14, text.drop 14, (List.take_append_drop 14 text).symm, ?_⟩
      rw [htake]
      exact reads_handlerHeader.mpr ⟨[c], rfl, Nat.le_refl 1, by simpa using hword⟩
  intro prev prev' text text' h
  rw [Bool.eq_iff_iff, begins, begins, h]

theorem injectAuth_editsSignatures : Form.handlerHeader.pattern.EditsSignatures 14 injectAuth where
  sees := sees_handlerHeader
  reads := by
    intro prev found rest hreads
    obtain ⟨name, rfl, hlength, hword⟩ := reads_handlerHeader.mp hreads
    have hheader : (Text.spell "pub async fn ").length = 13 := rfl
    refine ⟨by rw [List.length_append]; omega, fun hmem => ?_⟩
    rcases List.mem_append.mp hmem with hmem | hmem
    · exact absurd hmem (by decide)
    · exact absurd (hword _ hmem) (by decide)
  signature := by
    intro lead body hlead hopens
    by_cases hcut : ∃ front back, lead ++ body = front ++ back ∧ AuthCut front back
    · obtain ⟨_, _, heq, before, after, body', rfl, rfl, h⟩ := hcut
      obtain ⟨rfl, rfl⟩ := Text.append_head_inj hlead h.signature hopens h.opens
        (by simpa only [List.append_assoc] using heq)
      refine ⟨before ++ (poolParam ++ (authEntry ++ after)), ?_, h.signature_edited, ?_⟩
      · rw [heq, h.injectAuth_eq]
        simp only [List.append_assoc]
      · have hlength : 14 ≤ (before ++ poolParam).length := by
          rw [List.length_append, poolParam_length]
          omega
        rw [← List.append_assoc, ← List.append_assoc before, List.take_append_of_le_length hlength,
          List.take_append_of_le_length hlength]
    · refine ⟨lead, injectAuth_putsIn.kept fun front back heq h => ?_, hlead, rfl⟩
      exact hcut ⟨front, back, heq, h⟩
  again := by
    intro item
    by_cases hcut : ∃ front back, item = front ++ back ∧ AuthCut front back
    · obtain ⟨_, _, rfl, before, after, body, rfl, rfl, h⟩ := hcut
      rw [h.injectAuth_eq]
      exact injectAuth_putsIn.kept fun front back heq => h.not_authCut heq
    · have hkept := injectAuth_putsIn.kept fun front back heq h => hcut ⟨front, back, heq, h⟩
      rw [hkept, hkept]

/-- Where a handler of a text needs the parameter, the guard of the rule holds of the text. -/
theorem guard_of_cutAt {text : Text} {span : Span} {place : Nat}
    (h : CutAt AuthCut text span place) : injectAuthExtension.guard.holds text = true := by
  obtain ⟨_, _, hslice, ⟨before, after, body, rfl, rfl, h⟩, -⟩ := h
  have hinfix : span.slice text <:+: text :=
    (List.take_prefix _ _).isInfix.trans (List.drop_suffix _ _).isInfix
  have hwithin := Text.within_append_right (Text.within_append_right h.reaches after)
    (before ++ poolParam)
  rw [← hslice, Text.within_iff_isInfix] at hwithin
  exact (Text.within_iff_isInfix _ _).mpr (hwithin.trans hinfix)

theorem injectAuthExtension_apply_again (text : Text) :
    injectAuthExtension.apply (injectAuthExtension.apply text) = injectAuthExtension.apply text := by
  have ha : injectAuthExtension.action = .replace (.computed injectAuth) .all := rfl
  have rewritten {text : Text} (hg : injectAuthExtension.guard.holds text = true) :
      injectAuthExtension.apply text =
        Form.handlerHeader.pattern.rewriteItems injectAuth 0 none text :=
    Form.handlerHeader.apply_rewriteItems rfl ha hg
  have kept {text : Text} (hg : injectAuthExtension.guard.holds text ≠ true) :
      injectAuthExtension.apply text = text :=
    Rule.apply_of_guard_false (by simpa using hg)
  by_cases hg : injectAuthExtension.guard.holds text = true
  · by_cases hagain : injectAuthExtension.guard.holds (injectAuthExtension.apply text) = true
    · rw [rewritten hagain, rewritten hg]
      exact injectAuth_editsSignatures.rewriteItems_again text none
    · exact kept hagain
  · rw [kept hg, kept hg]

/-- What the rule for the auth parameter makes of a text. -/
structure InjectsAuth (text : Text) : Prop where
  inserted : ∃ places : List Nat, places.Pairwise (· < ·) ∧
    (∀ place, place ∈ places ↔
      ∃ span ∈ injectAuthExtension.matcher.spans text, CutAt AuthCut text span place) ∧
    injectAuthExtension.apply text = splice text (insertions authEntry places)
  once : ∀ span place other, CutAt AuthCut text span place → CutAt AuthCut text span other →
    place = other
  settled : injectAuthExtension.fire? (injectAuthExtension.apply text) = none

/-- The rule gives the auth parameter to the handlers that need it, and leaves its own output alone. -/
theorem injectAuthExtension_injects (text : Text) : InjectsAuth text where
  inserted := by
    obtain ⟨places, hascend, hmem, hsplice⟩ := injectAuth_putsIn.exists_places
      (injectAuthExtension.matcher.spans_ordered text)
    refine ⟨places, hascend, hmem, ?_⟩
    have ha : injectAuthExtension.action = .replace (.computed injectAuth) .all := rfl
    by_cases hg : injectAuthExtension.guard.holds text = true
    · rw [Rule.apply_of_replace ha hg, Matcher.getD_replace?_of_spans (fun h => by cases h),
        Scope.pick_all]
      exact hsplice
    · have hnone : places = [] := by
        refine List.eq_nil_iff_forall_not_mem.mpr fun place hplace => ?_
        obtain ⟨span, -, hcut⟩ := (hmem place).mp hplace
        exact hg (guard_of_cutAt hcut)
      rw [Rule.apply_of_guard_false (by simpa using hg), hnone]
      rfl
  once := by
    rintro span _ _ ⟨front, back, hslice, hcut, rfl⟩ ⟨front', back', hslice', hcut', rfl⟩
    rw [injectAuth_putsIn.only hcut hcut' (hslice.symm.trans hslice')]
  settled := (Rule.fire?_eq_none_iff _ _).mpr (injectAuthExtension_apply_again text)

end Recast.Catalog
