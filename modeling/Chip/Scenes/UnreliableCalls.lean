import Chip.Scenes.UnreliableTable

/-! Loading over an unreliable storage is loading when no operation fails. -/
namespace Chip.Scenes

open TLV Faulty

namespace Unreliable

variable {s : Faulty ChipError SceneTable} {st : SceneTable}

section

variable (h : SoundAs s st)
include h

theorem saveRecord_agrees (key : Except ChipError SceneKey) (size : Nat) (elements : Elements) :
  Proc.Agrees SoundAs (saveRecord key size elements) (Scenes.saveRecord key size elements) s st :=
  .bind (.lift key h) fun _ _ _ _ h => .bind (.lift _ h) fun _ _ _ _ h => access_agrees h

theorem loadValue_agrees (key : Except ChipError SceneKey) (size : Nat) :
  Proc.Agrees SoundAs (loadValue key size) (Scenes.loadValue key size) s st := by
  refine .bind (.lift key h) fun key _ _ _ h => .bind (.attempt (access_agrees h)) ?_
  intro result _ _ _ h
  cases result with
  | ok value => exact .pure value h
  | error e => exact .fail _ h

theorem loadRecord_agrees {α : Type} (key : Except ChipError SceneKey) (size : Nat)
  (deserialize : ReaderM α) :
  Proc.Agrees SoundAs (loadRecord key size deserialize)
    (Scenes.loadRecord key size deserialize) s st :=
  .bind (loadValue_agrees h key size) fun _ _ _ _ h => .lift _ h

theorem loadCount_agrees (endpoint : UInt16) :
  Proc.Agrees SoundAs (loadCount endpoint) (Scenes.loadCount endpoint) s st := by
  refine .bind (.attempt (loadRecord_agrees h _ _ _)) fun result _ _ _ h => ?_
  cases result with
  | ok countValue => exact .pure countValue h
  | error e =>
    simp only
    split_ifs
    · exact .pure 0 h
    · exact .fail e h

theorem saveCount_agrees (endpoint : UInt16) (countValue : UInt8) :
  Proc.Agrees SoundAs (saveCount endpoint countValue) (Scenes.saveCount endpoint countValue) s st :=
  saveRecord_agrees h _ _ _

theorem deleteSceneRecord_agrees (fabric : UInt8) (endpoint : UInt16) (index : Nat) :
  Proc.Agrees SoundAs (deleteSceneRecord fabric endpoint index)
    (Scenes.deleteSceneRecord fabric endpoint index) s st :=
  .bind (.lift _ h) fun _ _ _ _ h => access_agrees h

theorem save_agrees (fabric : FabricSceneData) :
  Proc.Agrees SoundAs (save fabric) fabric.save s st :=
  saveRecord_agrees h _ _ _

theorem deleteSurplus_agrees (fabric : FabricSceneData) (index n : Nat) :
  Proc.Agrees SoundAs (deleteSurplus fabric index n) (fabric.deleteSurplus index n) s st := by
  induction n generalizing index s st with
  | zero => exact .pure _ h
  | succ n ih =>
    refine .bind (.attempt (deleteSceneRecord_agrees h _ _ _)) fun result _ _ _ h => ?_
    cases result with
    | error e => exact .pure _ h
    | ok _ => exact .bind (ih h (index + 1)) fun _ _ _ _ h => .pure _ h

theorem load_agrees (fabric : FabricSceneData) :
  Proc.Agrees SoundAs (load fabric) fabric.load s st := by
  refine .bind (loadValue_agrees h _ _) fun value _ _ _ h => ?_
  cases hCount : deserializeSceneCount (TLVReader.init value value.length) with
  | mk result r =>
    cases result with
    | error e => exact .fail e h
    | ok counted =>
      refine .bind (deleteSurplus_agrees h _ _ _) fun surplus _ _ _ h => ?_
      obtain ⟨deleted, result⟩ := surplus
      simp only
      split_ifs
      · exact .bind (loadCount_agrees h _) fun _ _ _ _ h => .bind (saveCount_agrees h _ _)
          fun _ _ _ _ h => .bind (save_agrees h _) fun _ _ _ _ h => .bind (.lift _ h)
            fun _ _ _ _ h => .bind (.lift _ h) fun _ _ _ _ h => .pure _ h
      · exact .bind (.lift _ h) fun _ _ _ _ h => .bind (.lift _ h) fun _ _ _ _ h => .pure _ h

theorem loadOrCleared_agrees (fabric : FabricSceneData) :
  Proc.Agrees SoundAs (loadOrCleared fabric) fabric.loadOrCleared s st := by
  refine .bind (.attempt (load_agrees h fabric)) fun result _ _ _ h => ?_
  cases result with
  | ok loaded => exact .pure loaded h
  | error e =>
    simp only
    split_ifs
    · exact .pure fabric h
    · exact .fail e h

end

end Unreliable
end Chip.Scenes
