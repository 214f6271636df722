import M8flowCore.Json
import M8flowCore.Sample
/-!
# Submitted variables

Whatever is submitted to an instance is kept as text in its metadata and read
back through `_coerce_metadata_value` whenever the workflow is built, advanced
or retried. This module says which texts the workflow can still be saved with.
-/
open M8flowCore.Lib M8flowCore.Session

namespace M8flowCore

section
variable {W Ω : Type} (env : Env W Ω)

/-! ## Texts that can be saved -/

/-- The value can be written by the workflow serializer, which has no default,
and by `JsonDataModel`, whose default is `str`. -/
def Env.Encodes (v : PyVal) : Prop :=
  (Json.dumps true none (fun q => env.repr (.float q)) v).isSome = true ∧
    (Json.dumps true (some env.str) (fun q => env.repr (.float q)) v).isSome = true

theorem Env.encodes_iff (v : PyVal) : env.Encodes v ↔ Json.encodable true false v = true := by
  unfold Env.Encodes
  rw [Json.dumps_isSome, Json.dumps_isSome]
  exact ⟨And.left, fun h => ⟨h, Json.encodable_lenient true v h⟩⟩

/-- The text is a keyword of its own, is no Python literal, or is a literal made
of what JSON has: no set, bytes, complex number or ellipsis at any depth, no
integer of more than 4300 digits, and in each dictionary only text keys, only
number keys or a single key. -/
def PlainText (value : String) : Prop :=
  env.lower (strip value) ∈ ["true", "false", "none", "null"] ∨
    ∀ v, env.literalEval (strip value) = some v → Json.encodable true false v = true

theorem encodable_coerceMetadataValue (value : String) :
    Json.encodable true false (coerceMetadataValue env value) = true ↔ PlainText env value := by
  unfold PlainText coerceMetadataValue
  by_cases htrue : env.lower (strip value) = "true"
  · simp [htrue, Json.encodable]
  · by_cases hfalse : env.lower (strip value) = "false"
    · simp [hfalse, Json.encodable]
    · by_cases hnone : env.lower (strip value) = "none" ∨ env.lower (strip value) = "null"
      · rcases hnone with hnone | hnone <;> simp [hnone, Json.encodable]
      · obtain ⟨hnone, hnull⟩ := not_or.1 hnone
        cases hliteral : env.literalEval (strip value) with
        | none => simp [htrue, hfalse, hnone, hnull, hliteral, Json.encodable]
        | some v => simp [htrue, hfalse, hnone, hnull, hliteral]

/-- A stored text can be written, on its own and in any data it is put into,
exactly when it is plain. -/
theorem stored_text_encodes_iff (value : String) :
    (env.Encodes (coerceMetadataValue env value) ∧
      ∀ (data : Dict) (key : String), env.Encodes data.toVal →
        env.Encodes (data.set key (coerceMetadataValue env value)).toVal) ↔
      PlainText env value := by
  simp only [Env.encodes_iff, encodable_coerceMetadataValue, Json.encodable_toVal]
  constructor
  · exact And.left
  · intro hplain
    refine ⟨hplain, fun data key hdata kv hkv => ?_⟩
    rcases Dict.mem_set hkv with rfl | hmem
    · exact (encodable_coerceMetadataValue env value).2 hplain
    · exact hdata kv hmem

end

/-- A set display is a Python literal, and no JSON. -/
theorem set_text_not_encoded :
    ∃ (env : Env Sample.Review Bool) (value : String), ¬ env.Encodes (coerceMetadataValue env value) := by
  refine ⟨{ Sample.env with
    literalEval := fun text => if text = "\x7b1, 2\x7d" then some (.set [.int 1, .int 2]) else none }, "\x7b1, 2\x7d", ?_⟩
  rw [Env.encodes_iff]
  decide

end M8flowCore
