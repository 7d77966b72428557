import BlockVocabulary.Json.Basic

/-!
Live blocks of the editor, as far as generators and hooks may look at them, and hooks.

Hooks belong to blocks whose state or shape changes while the editor runs. A hook that a block does
not need does nothing.
-/

namespace BlockVocabulary

/-- A live block: its type, the values of its widgets and the code of the blocks plugged into its
inputs. -/
structure Block where
  type : String
  fieldValue : String → Option String
  inputCode : String → Option String

/-- A block with nothing in it. -/
instance : Inhabited Block := ⟨⟨"", fun _ => none, fun _ => none⟩⟩

structure Hooks where
  /-- State to keep with the block beyond the values of its widgets. -/
  saveExtraState : Block → Option Json := fun _ => none
  /-- The block after state kept earlier was put back. -/
  loadExtraState : Block → Json → Block := fun b _ => b
  /-- The block after its inputs were built anew. -/
  updateShape : Block → Block := id
  /-- The container block after it has noted what is attached to the block. -/
  saveConnections : Block → Block := id
  /-- The block after an edited container block was applied to it. -/
  compose : Block → Block → Block := fun b _ => b
  /-- The container block to show for the block. -/
  decompose : Block → Option Json := fun _ => none
  /-- The block after an event of the workspace. -/
  onChange : Block → Json → Block := fun b _ => b

end BlockVocabulary
