set_option autoImplicit false

namespace WorkflowGraph.Text

def pieces (separator : Char) : List Char → List (List Char)
  | [] => [[]]
  | c :: rest =>
    if c = separator then [] :: pieces separator rest
    else
      match pieces separator rest with
      | [] => [[c]]
      | piece :: more => (c :: piece) :: more

def join (separator : Char) : List (List Char) → List Char
  | [] => []
  | [piece] => piece
  | piece :: next :: more => piece ++ separator :: join separator (next :: more)

def segments (path : String) : List String := (pieces '.' path.toList).map String.ofList

variable {separator : Char}

theorem pieces_ne_nil (cs : List Char) : pieces separator cs ≠ [] := by
  cases cs with
  | nil => simp [pieces]
  | cons c rest =>
    rw [pieces]
    split
    · simp
    · split <;> simp

theorem join_pieces (cs : List Char) : join separator (pieces separator cs) = cs := by
  induction cs with
  | nil => rfl
  | cons c rest ih =>
    rw [pieces]
    split
    · rename_i h
      cases hs : pieces separator rest with
      | nil => exact absurd hs (pieces_ne_nil rest)
      | cons piece more => simp_all [join]
    · cases hs : pieces separator rest with
      | nil => exact absurd hs (pieces_ne_nil rest)
      | cons piece more =>
        rw [hs] at ih
        cases more with
        | nil => simp_all [join]
        | cons next more => simp_all [join]

theorem pieces_of_notMem {cs : List Char} (h : separator ∉ cs) : pieces separator cs = [cs] := by
  induction cs with
  | nil => rfl
  | cons c rest ih =>
    simp only [List.mem_cons, not_or] at h
    rw [pieces, if_neg (Ne.symm h.1), ih h.2]

theorem pieces_append_cons {piece : List Char} (h : separator ∉ piece) (rest : List Char) :
    pieces separator (piece ++ separator :: rest) = piece :: pieces separator rest := by
  induction piece with
  | nil => simp [pieces]
  | cons c piece ih =>
    simp only [List.mem_cons, not_or] at h
    rw [List.cons_append, pieces, if_neg (Ne.symm h.1), ih h.2]

theorem pieces_join {ps : List (List Char)} (hne : ps ≠ []) (h : ∀ p ∈ ps, separator ∉ p) :
    pieces separator (join separator ps) = ps := by
  induction ps with
  | nil => exact absurd rfl hne
  | cons p rest ih =>
    cases rest with
    | nil => exact pieces_of_notMem (h p List.mem_cons_self)
    | cons q rest =>
      rw [join, pieces_append_cons (h p List.mem_cons_self)]
      rw [ih (by simp) fun r hr => h r (List.mem_cons_of_mem _ hr)]

end WorkflowGraph.Text
