import Companion.Proofs.Render.RustTypes
import Companion.Proofs.Syntax.TypeReads

/-!
Types that are printed are read back. What is printed of a type that was read from a text, and of which no part was kept as
it stands, is a text from which the same type is read: a path may lose its parentheses, empty angles and turbofish on the
way, but no name and no argument.
-/

set_option autoImplicit false

namespace Companion

open Companion.Syntax (Form IsPathName TypeSyntax)

namespace Syntax

/-- A path is written with two colons or a word in front. -/
theorem pathForms_eq_cons (absolute : Bool) (leading : List String) (last : String) :
    ∃ form forms, pathForms absolute leading last = form :: forms ∧
      (form = .sign ':' true ∨ ∃ name ∈ leading ++ [last], form = .word name) := by
  cases absolute with
  | true => exact ⟨_, _, rfl, .inl rfl⟩
  | false =>
      cases leading with
      | nil => exact ⟨_, _, rfl, .inr ⟨last, by simp, rfl⟩⟩
      | cons name names => exact ⟨_, _, rfl, .inr ⟨name, by simp, rfl⟩⟩

/-- What is written of a type is not taken for a mark of the byte order. -/
theorem TypeSyntax.exists_toList_forms {type : TypeSyntax} (plain : type.Plain) (sound : type.Sound) (joint : Bool) :
    ∃ first rest, (Form.texts (type.forms joint)).toList = first :: rest ∧ first ≠ byteOrderMark := by
  cases type with
  | parenthesized => contradiction
  | other => contradiction
  | path absolute leading last arguments =>
      rcases pathForms_eq_cons absolute leading last with ⟨form, forms, same, begins⟩
      rw [TypeSyntax.forms, same, List.cons_append, Form.texts, String.toList_append]
      rcases begins with rfl | ⟨name, member, rfl⟩
      · exact ⟨':', _, rfl, by decide⟩
      · rcases (isWord_of_isPathName (sound.1 name member)).exists_startsWord with ⟨first, others, chars, starts⟩
        refine ⟨first, _, by rw [Form.text, chars, List.cons_append], ?_⟩
        rintro rfl
        have noStart : Text.startsIdentifier byteOrderMark = false := by decide +kernel
        exact Bool.false_ne_true (noStart.symm.trans starts.starts)

/-- The number of tokens does not depend on what stands behind the type. -/
theorem TypeSyntax.sizes_forms (type : TypeSyntax) (joint other : Bool) :
    Form.sizes (type.forms joint) = Form.sizes (type.forms other) := by
  cases type with
  | parenthesized | other => rfl
  | path absolute leading last arguments =>
      cases arguments <;> simp [TypeSyntax.forms, TypeSyntax.argumentForms, Form.sizes, Form.size, Form.sizes_append]

/-- A type that is written is read from its text alone. -/
theorem readType_texts {type : TypeSyntax} (plain : type.Plain) (sound : type.Sound) :
    readType (Form.texts (type.forms false)) = .ok type := by
  have fit : Form.AllFit .other (type.forms false) := by
    have ends : (Form.frontOf .other []).endsWord = true := rfl
    have fit := TypeSyntax.allFit_forms plain sound ends (show Form.AllFit .other [] from trivial)
    rwa [List.append_nil] at fit
  rcases TypeSyntax.exists_toList_forms plain sound false with ⟨first, rest, chars, noMark⟩
  have divided := Form.treesFrom_texts fit chars noMark .start
  -- The depth grows with the tokens of the type, so it is enough for all its arguments.
  have reads : Reads (Syntax.type (grammar (enoughDepth (Form.trees .start (type.forms false)))) true)
      (Form.trees .start (type.forms false)) [] (·.type = type) := by
    have deep : Form.sizes (type.forms true) ≤ enoughDepth (Form.trees .start (type.forms false)) + 1 := by
      rw [enoughDepth, Form.sizeAll_trees, TypeSyntax.sizes_forms type true false]
      omega
    have back := readsBack_grammar plain sound deep true false .start [] rfl
    rwa [List.append_nil] at back
  have parsed : ∃ form words, parseAll (fun g => Syntax.type g true) (Form.trees .start (type.forms false)) = .ok (form, words) ∧
      form.type = type := parseAll_of_reads reads
  rcases parsed with ⟨form, words, parsed, same⟩
  rw [readType, treesOf, divided]
  simp only [parsed, same, Bind.bind, Except.bind, Pure.pure, Except.pure]

end Syntax

namespace TypeRef

/-- What is printed of a type that was read, and of which no part was kept as it stands, is read as the same type. -/
theorem readType_render {text : String} {type : TypeSyntax} (read : Syntax.readType text = .ok type)
    (understood : (ofSyntax type).VerbatimFree) :
    ∃ again, Syntax.readType (ofSyntax type).render = .ok again ∧ ofSyntax again = ofSyntax type := by
  have written := written_ofSyntax type (Syntax.sound_readType read) understood
  refine ⟨(ofSyntax type).toSyntax, ?_, written.readBack⟩
  rw [← written.spelled false]
  exact Syntax.readType_texts written.plain written.sound

/-- A type between parentheses that begins at the root, with a turbofish, a raw name and empty angles. -/
theorem readType_render_grid :
    let text := "(::geo::Grid::<Vec<(Self)>, r#type<>>)"
    let type : TypeSyntax := .parenthesized (.path true ["geo"] "Grid"
      [.path false [] "Vec" [.parenthesized (.path false [] "Self" [])], .path false [] "r#type" []])
    Syntax.readType text = .ok type ∧ (ofSyntax type).VerbatimFree ∧
      (ofSyntax type).render = "::geo::Grid<Vec<Self>, r#type>" ∧
      ∃ again, Syntax.readType (ofSyntax type).render = .ok again ∧ ofSyntax again = ofSyntax type := by
  intro text type
  have read : Syntax.readType text = .ok type := Syntax.ok_of_toOption (by decide +kernel)
  have understood : (ofSyntax type).VerbatimFree := by decide
  exact ⟨read, understood, by decide +kernel, readType_render read understood⟩

end TypeRef

end Companion
