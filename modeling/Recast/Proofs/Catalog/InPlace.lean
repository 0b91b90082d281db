import Recast.Catalog
import Recast.Proofs.Catalog.Form
import Recast.Proofs.Catalog.Repairs
import Recast.Proofs.Linewise

/-! The rules of the catalog that are listed as in place do stay within lines. A rule is listed so by
the written form of its pattern, which is searched for a few marks that a pattern for several lines
would have. For the rules of the catalog this guess is right: the patterns without the marks are made
of fixed texts and of words, and neither these nor what comes in their place have a line break. -/

namespace Recast

theorem Regex.source_ofText (source : Text) (valid : (read? source).isSome = true) :
    (ofText source valid).source = source := by
  have hsource {expr : Regex} (h : read? source = some expr) : expr.source = source := by
    simp only [read?, Option.bind_eq_bind, Option.bind_eq_some_iff] at h
    obtain ⟨draft, -, h⟩ := h
    split at h
    · cases h
    · split at h
      · cases h
      · obtain ⟨pattern, -, h⟩ := Option.bind_eq_some_iff.mp h
        obtain rfl := Option.some.inj h
        rfl
  exact hsource (Option.some_get valid).symm

namespace Rule

/-- If the rule is listed as in place, it stays within lines. -/
def ListedRightly (rule : Rule) : Prop := rule.kind = .replaceInPlace → rule.Unbroken

variable {rule : Rule}

theorem Unbroken.listedRightly (h : rule.Unbroken) : rule.ListedRightly := fun _ => h

theorem listedRightly_of_insert {text : Text} {side : Side} (ha : rule.action = .insert text side) :
    rule.ListedRightly := by
  intro hkind
  rw [kind, ha] at hkind
  cases hkind

theorem listedRightly_of_spansLines (h : rule.matcher.spansLines = true) : rule.ListedRightly := by
  intro hkind
  rw [kind, h] at hkind
  split at hkind <;> cases hkind

theorem listedRightly_of_source {source : Text} {valid : (Regex.read? source).isSome = true}
    (hm : rule.matcher = .regex (.ofText source valid))
    (h : Text.within "\\n".toList source = true ∨ Text.within "\\s".toList source = true) :
    rule.ListedRightly := by
  refine listedRightly_of_spansLines ?_
  rw [hm, Matcher.spansLines, Regex.source_ofText]
  rcases h with h | h
  · rw [h, Bool.or_true, Bool.true_or]
  · rw [h, Bool.or_true]

end Rule

namespace Catalog

variable {rule : Rule}

namespace Form

theorem unbroken (form : Form) {valid : (Regex.read? form.source).isSome = true}
    {new : Replacement} {scope : Scope} (hm : rule.matcher = .regex (.ofText form.source valid))
    (ha : rule.action = .replace new scope) (hform : form.pattern.avoids lineBreaks = true)
    (hnew : new.Avoids lineBreaks) : rule.Unbroken where
  matcher := by
    rw [hm, Matcher.avoids, form.pattern_ofText]
    exact hform
  action := ⟨new, scope, ha, hnew⟩

theorem listedRightly {template : Text} {scope : Scope} (form : Form)
    {valid : (Regex.read? form.source).isSome = true}
    (hm : rule.matcher = .regex (.ofText form.source valid))
    (ha : rule.action = .replace (.template template) scope)
    (hform : form.pattern.avoids lineBreaks = true)
    (htemplate : (template.all fun c => !lineBreaks.contains c) = true) : rule.ListedRightly :=
  (form.unbroken hm ha hform (Matcher.disjoint_of_all htemplate)).listedRightly

theorem letters_avoids : letters.avoids lineBreaks = true := by
  have hblanks : lineBreaks.all Text.isBlank = true := by decide
  refine List.all_eq_true.mpr fun mark hmark => ?_
  have hword := Text.isWord_of_isBlank (List.all_eq_true.mp hblanks mark hmark)
  rw [CharClass.has, hword, Bool.not_false]

theorem authAccess_avoids : authAccess.pattern.avoids lineBreaks = true := by
  have hreceiver : receiver.avoids lineBreaks = true :=
    Bool.and_eq_true_iff.mpr ⟨rfl, Bool.and_eq_true_iff.mpr ⟨letters_avoids, by decide⟩⟩
  exact Bool.and_eq_true_iff.mpr ⟨hreceiver, by decide⟩

theorem authName_avoids : authName.pattern.avoids lineBreaks = true := by
  have hname : (Pattern.seq (.group 1 letters) (one ';')).avoids lineBreaks = true :=
    Bool.and_eq_true_iff.mpr ⟨letters_avoids, by decide⟩
  have hfixed : ((Text.spell "use crate::auth::").all fun c =>
      (Pattern.char (.single c)).avoids lineBreaks) = true := by decide
  exact Pattern.avoids_lit hfixed hname

end Form

theorem routeAuth_avoids : (Replacement.computed routeAuth).Avoids lineBreaks := by
  intro found hfound
  rw [routeAuth]
  split
  · have hfixed : (Text.spell "state.auth.").Disjoint lineBreaks :=
      Matcher.disjoint_of_all (by decide)
    simpa only [Text.spell_eq] using hfixed
  · exact hfound

theorem authViaState_unbroken : authViaState.Unbroken :=
  Form.authAccess.unbroken rfl rfl Form.authAccess_avoids routeAuth_avoids

theorem fixHandlers_listedRightly : ∀ rule ∈ fixHandlers.rules, rule.ListedRightly := by
  intro rule hr
  -- what is listed otherwise is told by its action, by its braces or by the source of its pattern
  simp only [fixHandlers, RuleSet.ofRules, List.mem_cons, List.not_mem_nil, or_false] at hr
  rcases hr with rfl | rfl | rfl | rfl | rfl | rfl | rfl | rfl | rfl | rfl | rfl | rfl | rfl
  · exact Rule.listedRightly_of_source rfl (by decide)
  · exact Rule.listedRightly_of_insert rfl
  · exact Rule.listedRightly_of_source rfl (by decide)
  · exact Rule.listedRightly_of_source rfl (by decide)
  · exact Form.poolDeref.listedRightly rfl rfl (by decide) (by decide)
  · exact authViaState_unbroken.listedRightly
  · exact Rule.listedRightly_of_source rfl (by decide)
  · exact Rule.listedRightly_of_source rfl (by decide)
  · exact Rule.listedRightly_of_spansLines rfl
  · exact Rule.listedRightly_of_insert rfl
  · exact Form.authOpening.listedRightly rfl rfl (by decide) (by decide)
  · exact Form.authName.listedRightly rfl rfl Form.authName_avoids (by decide)
  · exact Rule.listedRightly_of_insert rfl

theorem fixAuthHandler_listedRightly : ∀ rule ∈ fixAuthHandler.rules, rule.ListedRightly := by
  simp only [fixAuthHandler, RuleSet.ofRules, List.forall_mem_singleton]
  exact Form.poolDouble.listedRightly rfl rfl (by decide) (by decide)

theorem revertHandlers_listedRightly : ∀ rule ∈ revertHandlers.rules, rule.ListedRightly := by
  intro rule hr
  simp only [revertHandlers, RuleSet.ofRules, List.mem_cons, List.not_mem_nil, or_false] at hr
  rcases hr with rfl | rfl | rfl | rfl | rfl | rfl | rfl | rfl | rfl | rfl | rfl | rfl
  · exact Rule.listedRightly_of_source rfl (by decide)
  · exact Rule.listedRightly_of_spansLines rfl
  · exact Rule.listedRightly_of_insert rfl
  · exact Rule.listedRightly_of_source rfl (by decide)
  · exact Rule.listedRightly_of_spansLines rfl
  · exact Form.statePool.listedRightly rfl rfl (by decide) (by decide)
  · exact Form.stateAuth.listedRightly rfl rfl (by decide) (by decide)
  · exact Rule.listedRightly_of_insert rfl
  · exact Rule.listedRightly_of_insert rfl
  · exact Form.authOpening.listedRightly rfl rfl (by decide) (by decide)
  · exact Form.authName.listedRightly rfl rfl Form.authName_avoids (by decide)
  · exact Rule.listedRightly_of_insert rfl

theorem unusedStateImport_listedRightly : ∀ rule ∈ unusedStateImport, rule.ListedRightly := by
  intro rule hr
  have hunbroken {needle new : Text} (hm : rule.matcher = .literal needle)
      (ha : rule.action = .replace (.template new) .all)
      (h : ((needle ++ new).all fun c => !lineBreaks.contains c) = true) : rule.ListedRightly := by
    rw [List.all_append, Bool.and_eq_true] at h
    have hrule : rule.Unbroken := ⟨by rw [hm]; exact h.1, _, _, ha, Matcher.disjoint_of_all h.2⟩
    exact hrule.listedRightly
  simp only [unusedStateImport, List.mem_cons, List.not_mem_nil, or_false] at hr
  rcases hr with rfl | rfl <;> exact hunbroken rfl rfl (by decide)

theorem finalFix_listedRightly : ∀ target ∈ finalFixTransformation.targets,
    ∀ rule ∈ target.rules.rules, rule.ListedRightly := by
  have hreport : ∀ rule ∈ finalFixReport.rules, rule.ListedRightly := by
    refine List.forall_mem_cons.mpr ⟨?_, unusedStateImport_listedRightly⟩
    exact Rule.listedRightly_of_spansLines rfl
  have huser : ∀ rule ∈ finalFixUser.rules, rule.ListedRightly :=
    List.forall_mem_singleton.mpr
      (Form.staleUserCall.listedRightly rfl rfl (by decide) (by decide))
  have hplugins : ∀ rule ∈ finalFixPlugins.rules, rule.ListedRightly :=
    List.forall_mem_cons.mpr ⟨Rule.listedRightly_of_insert rfl,
      List.forall_mem_singleton.mpr (Rule.listedRightly_of_source rfl (by decide))⟩
  have hmain : ∀ rule ∈ finalFixMain.rules, rule.ListedRightly :=
    List.forall_mem_singleton.mpr (Form.managerCall.listedRightly rfl rfl (by decide) (by decide))
  simp only [finalFixTransformation, List.forall_mem_append, List.forall_mem_cons,
    List.forall_mem_map, List.not_mem_nil, false_implies, implies_true, and_true]
  exact ⟨⟨hreport, huser, hplugins, hmain⟩, unusedStateImport_listedRightly,
    unusedStateImport_listedRightly, unusedStateImport_listedRightly,
    unusedStateImport_listedRightly⟩

theorem enumRule_listedRightly (name : String)
    (valid : (Regex.read? (enumPattern name)).isSome = true) :
    (enumRule name valid).ListedRightly := by
  have hbreak : Text.within "\\n".toList "#\\[derive\\([^)]*\\)\\][ \\t]*\\r?\\n".toList = true := by
    decide
  have hsource : Text.within "\\n".toList (enumPattern name) = true := by
    unfold enumPattern
    exact Text.within_append_left (Text.within_append_left (Text.within_append_left hbreak _) _) _
  exact Rule.listedRightly_of_source rfl (.inl hsource)

theorem countRule_listedRightly (binding : String)
    (valid : (Regex.read? (countPattern binding)).isSome = true) :
    (countRule binding valid).ListedRightly := by
  have hblank : Text.within "\\s".toList "\\s*\\.await([^;]*?)\\?;".toList = true := by
    decide
  have hsource : Text.within "\\s".toList (countPattern binding) = true :=
    Text.within_append_right hblank _
  exact Rule.listedRightly_of_source rfl (.inr hsource)

theorem sqlxType_listedRightly : ∀ target ∈ sqlxTypeTransformation.targets,
    ∀ rule ∈ target.rules.rules, rule.ListedRightly := by
  have hmigrations : ∀ rule ∈ disableMigrations.rules, rule.ListedRightly :=
    List.forall_mem_singleton.mpr (Rule.listedRightly_of_source rfl (by decide))
  simp only [sqlxTypeTransformation, List.forall_mem_cons, List.not_mem_nil, false_implies,
    implies_true, and_true]
  refine ⟨?_, ?_, ?_, ?_, ?_, ?_, hmigrations⟩
  · exact List.forall_mem_cons.mpr ⟨enumRule_listedRightly _ _,
      List.forall_mem_singleton.mpr (enumRule_listedRightly _ _)⟩
  · exact List.forall_mem_singleton.mpr (enumRule_listedRightly _ _)
  · exact List.forall_mem_cons.mpr ⟨enumRule_listedRightly _ _,
      List.forall_mem_cons.mpr ⟨enumRule_listedRightly _ _,
        List.forall_mem_singleton.mpr (enumRule_listedRightly _ _)⟩⟩
  · exact List.forall_mem_singleton.mpr (enumRule_listedRightly _ _)
  · exact List.forall_mem_singleton.mpr (countRule_listedRightly _ _)
  · exact List.forall_mem_singleton.mpr (countRule_listedRightly _ _)

/-- For every rule of the four transformations that is listed as in place, and for every text: no span
of its matcher has a line break in it, and what the rule makes of the text it makes line by line. -/
theorem inPlace_linewise (kind : Kind) :
    ∀ target ∈ kind.transformation.targets, ∀ rule ∈ target.rules.rules,
      rule.kind = .replaceInPlace → ∀ text, rule.Linewise text := by
  have hlisted : ∀ target ∈ kind.transformation.targets, ∀ rule ∈ target.rules.rules,
      rule.ListedRightly := by
    cases kind with
    | fixHandlers =>
      refine List.forall_mem_append.mpr ⟨?_, List.forall_mem_singleton.mpr
        fixAuthHandler_listedRightly⟩
      exact List.forall_mem_map.mpr fun _ _ => fixHandlers_listedRightly
    | revertHandlers =>
      exact List.forall_mem_map.mpr fun _ _ => revertHandlers_listedRightly
    | finalFix => exact finalFix_listedRightly
    | sqlxTypeFix => exact sqlxType_listedRightly
  intro target htarget rule hrule hkind text
  exact (hlisted target htarget rule hrule hkind).linewise text

theorem inPlace_linewise_access :
    (∃ target ∈ (Kind.fixHandlers).transformation.targets, poolViaState ∈ target.rules.rules) ∧
      poolViaState.kind = .replaceInPlace ∧
      poolViaState.matcher.spans (Text.spell "a(&**pool)\nb(&*pool)") = [⟨2, 9⟩, ⟨13, 19⟩] ∧
      poolViaState.Linewise (Text.spell "a(&**pool)\nb(&*pool)") := by
  have htarget : ⟨handlerPath "user", fixHandlers⟩ ∈ (Kind.fixHandlers).transformation.targets :=
    List.mem_append_left _ List.mem_cons_self
  have hrule : poolViaState ∈ fixHandlers.rules := by
    simp [fixHandlers, RuleSet.ofRules]
  have hkind : poolViaState.kind = .replaceInPlace := by decide
  refine ⟨⟨_, htarget, hrule⟩, hkind, by decide +kernel, ?_⟩
  exact inPlace_linewise .fixHandlers _ htarget poolViaState hrule hkind _

/-- The listing alone promises nothing: a class that is written without any of the marks may still have
line breaks in it. -/
example :
    (Rule.remove "rest" (.regex (.ofText "a[^;]*".toList))).kind = .replaceInPlace ∧
      (Matcher.regex (.ofText "a[^;]*".toList)).spans (Text.spell "a\nb;") = [⟨0, 3⟩] := by
  decide

end Catalog

end Recast
