set_option autoImplicit false

namespace WorkflowGraph.Json

def shortEscapes : List (Char × Char) :=
  [('"', '"'), ('\\', '\\'), ('\x08', 'b'), ('\x0c', 'f'), ('\n', 'n'), ('\r', 'r'), ('\t', 't')]

def letter? (c : Char) : Option Char := shortEscapes.lookup c

def unescape (letter : Char) : Option Char :=
  if letter = '/' then some '/'
  else (shortEscapes.find? (·.2 = letter)).map (·.1)

theorem unescape_of_mem {c letter : Char} (h : (c, letter) ∈ shortEscapes) :
    unescape letter = some c := by
  have every : ∀ e ∈ shortEscapes, unescape e.2 = some e.1 := by decide
  exact every (c, letter) h

theorem unescape_of_letter? {c letter : Char} (h : letter? c = some letter) :
    unescape letter = some c := by
  obtain ⟨before, after, split, _⟩ := List.lookup_eq_some_iff.1 h
  exact unescape_of_mem (by rw [split]; simp)

def escape (c : Char) : List Char :=
  match letter? c with
  | some letter => ['\\', letter]
  | none =>
    if c.toNat < 0x20 then
      "\\u00".toList ++ [Nat.digitChar (c.toNat / 16), Nat.digitChar (c.toNat % 16)]
    else [c]

end WorkflowGraph.Json
