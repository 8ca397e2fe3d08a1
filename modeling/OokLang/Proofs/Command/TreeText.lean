import Mathlib.Data.List.Basic
import OokLang.Program.Printer

namespace OokLang

namespace Program

/-- A single line that is indented by so many levels or more. -/
def IsLine (level : Nat) (line : String) : Prop :=
  ∃ text, '\n' ∉ text.toList ∧ line = lineAt level text

namespace IsLine

variable {level level' : Nat} {text line : String} {lines : List String}

theorem lineAt (htext : '\n' ∉ text.toList) : IsLine level (Program.lineAt level text) :=
  ⟨text, htext, rfl⟩

/-- The lines of a field are indented as far as the field is. -/
theorem fieldLines (h : ∀ line ∈ lines, IsLine level line) :
    ∀ line ∈ Program.fieldLines level lines, IsLine level line := by
  cases lines with
  | nil => exact List.forall_mem_singleton.mpr (lineAt (by decide))
  | cons first rest =>
    refine List.forall_mem_cons.mpr ⟨lineAt (by decide), List.forall_mem_append.mpr ⟨h, ?_⟩⟩
    exact List.forall_mem_singleton.mpr (lineAt (by decide))

end IsLine

end Program

end OokLang
