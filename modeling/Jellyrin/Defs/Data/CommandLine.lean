import Mathlib.Data.List.Basic

/-! Command lines whose options are told from operands by a dash. -/

namespace Jellyrin.CommandLine

def IsOption (arg : String) : Prop := arg.toList.head? = some '-'

instance (arg : String) : Decidable (IsOption arg) := inferInstanceAs (Decidable (_ = _))

def options (args : List String) : List String := args.filter fun arg => IsOption arg

variable {arg option value : String} {args first second : List String}

@[simp] theorem options_nil : options [] = [] := rfl

@[simp] theorem options_append (first second : List String) :
    options (first ++ second) = options first ++ options second :=
  List.filter_append ..

theorem options_cons_option (h : IsOption arg) : options (arg :: args) = arg :: options args :=
  List.filter_cons_of_pos (decide_eq_true h)

theorem options_cons_operand (h : ¬IsOption arg) : options (arg :: args) = options args :=
  List.filter_cons_of_neg (by simpa using h)

theorem options_pair (h : IsOption option) (hvalue : ¬IsOption value) :
    options [option, value] = [option] := by
  rw [options_cons_option h, options_cons_operand hvalue, options_nil]

theorem mem_options_iff (h : IsOption option) : option ∈ options args ↔ option ∈ args := by
  simp [options, h]

theorem isOption_of_mem_options (h : option ∈ options args) : IsOption option := by
  simpa using (List.mem_filter.mp h).2

theorem notMem_of_options_subset {names : List String} (h : options args ⊆ names)
    (hoption : IsOption option) (hnames : option ∉ names) : option ∉ args :=
  fun hmem => hnames (h ((mem_options_iff hoption).mpr hmem))

theorem mem_iff_of_options_subset {names : List String} (h : options args ⊆ names)
    (hoption : IsOption option) : option ∈ args ↔ option ∈ names ∧ option ∈ args :=
  ⟨fun hmem => ⟨h ((mem_options_iff hoption).mpr hmem), hmem⟩, And.right⟩

end Jellyrin.CommandLine
