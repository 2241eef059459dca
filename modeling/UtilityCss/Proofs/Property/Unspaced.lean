import UtilityCss.Proofs.Property.Making
import UtilityCss.Proofs.Resolve.Tokens

namespace UtilityCss
open Text Css

def Context.Unspaced (ctx : Context) : Prop :=
  ∀ layer name, ∀ token ∈ (ctx.scale layer name).names, Text.Unspaced token

def Match.Unspaced (found : Match) : Prop := ∀ name ∈ found.classes, Text.Unspaced name

def Spaceless (matcher : Matcher) : Prop := ∀ ctx, ctx.Unspaced → ∀ value, (matcher ctx value).Unspaced

namespace Match

theorem none_unspaced : Match.none.Unspaced := nofun

theorem warned_unspaced (name : String) (warning : Option String) (unspaced : Text.Unspaced name) :
    (warned name warning).Unspaced := by
  unfold warned
  split
  · exact none_unspaced
  · exact List.forall_mem_singleton.mpr unspaced

theorem single_unspaced (name : String) (unspaced : Text.Unspaced name) : (single name).Unspaced :=
  warned_unspaced name .none unspaced

theorem ofVerdict_unspaced (ctx : Context) (unspaced : ctx.Unspaced) (tokenClass : String → String)
    (stem value : String) (scale : ScaleName) (asked : String)
    (tokens : ∀ token, Text.Unspaced token → Text.Unspaced (tokenClass token)) (named : Text.Unspaced stem) :
    (ofVerdict tokenClass stem value (resolve ctx scale asked)).Unspaced := by
  unfold ofVerdict
  split
  · rename_i token shown
    obtain ⟨layer, known⟩ := resolve_token_known ctx scale asked token shown
    exact warned_unspaced _ _ (tokens token (unspaced layer scale token known))
  · exact warned_unspaced _ _ (arbitraryClass_unspaced stem value named)

theorem append_unspaced (a b : Match) (one : a.Unspaced) (two : b.Unspaced) : (a ++ b).Unspaced :=
  List.forall_mem_append.mpr ⟨one, two⟩

end Match

theorem Made.unspaced (ctx : Context) (spaceless : ctx.Unspaced) (found : Match) (made : Made ctx found) :
    found.Unspaced := by
  induction made with
  | nothing => exact Match.none_unspaced
  | own name unspaced => exact Match.single_unspaced name unspaced
  | judged tokenClass stem value scale asked tokens named =>
    exact Match.ofVerdict_unspaced ctx spaceless tokenClass stem value scale asked tokens named
  | both a b _ _ one two => exact Match.append_unspaced a b one two

namespace Registry

theorem standard_spaceless : ∀ entry ∈ standard, Spaceless entry.2 :=
  fun entry member ctx spaceless value => (standard_making entry member ctx value).unspaced ctx spaceless _

theorem matchDeclaration_unspaced (registry : Registry) (spaceless : ∀ entry ∈ registry, Spaceless entry.2)
    (ctx : Context) (unspaced : ctx.Unspaced) (property value : String) :
    (registry.matchDeclaration ctx property value).Unspaced := by
  rcases registry.matchDeclaration_cases property value with missed | ⟨matcher, known, _, found⟩
  · rw [missed]
    exact Match.none_unspaced
  · rw [found, Match.Unspaced, noted_classes]
    exact spaceless _ known ctx unspaced (trim value)

end Registry
end UtilityCss
