import WorkflowGraph.Text.Blank
import WorkflowGraph.Condition.Expr
set_option autoImplicit false

/-!
# Parsing conditions

A condition is tried as a comparison, as a membership, as a conjunction, as a disjunction and as a
negation, in this order. The operands of the first two are made of atoms: quoted literals and
characters other than quotes and operators. A conjunction is cut at the first `&&` and a
disjunction at the first `||`, and their sides are conditions again; there is no precedence beyond
the order of the trials and no grouping. Quotes do not hide a connective.
-/
namespace WorkflowGraph.Condition

open Text (trim)

def isQuote (c : Char) : Bool := c == '\'' || c == '"'

def isOperatorChar (c : Char) : Bool :=
  c == '=' || c == '!' || c == '<' || c == '>' || c == '&' || c == '|'

def cutAt? (q : Char) : List Char → Option (List Char × List Char)
  | [] => none
  | c :: rest => if c = q then some ([], rest) else (cutAt? q rest).map fun p => (c :: p.1, p.2)

theorem cutAt?_eq {q : Char} {cs content rest : List Char}
    (h : cutAt? q cs = some (content, rest)) : cs = content ++ q :: rest := by
  induction cs generalizing content with
  | nil => simp [cutAt?] at h
  | cons c cs ih =>
    rw [cutAt?] at h
    split at h
    · simp_all
    · obtain ⟨p, hp, heq⟩ := Option.map_eq_some_iff.1 h
      obtain ⟨rfl, rfl⟩ := Prod.mk.inj heq
      simp [ih hp]

theorem length_of_cutAt? {q : Char} {cs content rest : List Char}
    (h : cutAt? q cs = some (content, rest)) : rest.length < cs.length := by
  rw [cutAt?_eq h]
  simp
  omega

def spanAtoms (cs : List Char) : List Char × List Char :=
  match cs with
  | [] => ([], [])
  | c :: rest =>
    if isQuote c then
      match _h : cutAt? c rest with
      | some (content, after) =>
        let more := spanAtoms after
        (c :: content ++ c :: more.1, more.2)
      | none => ([], c :: rest)
    else if isOperatorChar c then ([], c :: rest)
    else
      let more := spanAtoms rest
      (c :: more.1, more.2)
termination_by cs.length
decreasing_by
  · have := length_of_cutAt? _h
    simp
    omega
  · simp

def isAtoms (cs : List Char) : Bool := (spanAtoms cs).2.isEmpty

def operator? : List Char → Option (CompareOp × List Char)
  | '=' :: '=' :: '=' :: rest => some (.eq, rest)
  | '=' :: '=' :: rest => some (.eq, rest)
  | '!' :: '=' :: '=' :: rest => some (.notEq, rest)
  | '!' :: '=' :: rest => some (.notEq, rest)
  | '>' :: '=' :: rest => some (.gte, rest)
  | '>' :: rest => some (.gt, rest)
  | '<' :: '=' :: rest => some (.lte, rest)
  | '<' :: rest => some (.lt, rest)
  | _ => none

/-- A comparison: atoms, an operator, atoms. The operator can only stand where the atoms at the
start end. -/
def comparison? (cs : List Char) : Option (List Char × CompareOp × List Char) :=
  let (left, rest) := spanAtoms cs
  match operator? rest with
  | some (op, right) =>
    if left.isEmpty || right.isEmpty || !isAtoms right then none else some (left, op, right)
  | none => none

def afterIn? (cs : List Char) : Option (List Char) :=
  match cs with
  | c :: rest =>
    if Text.isBlank c then
      match Text.trimStart rest with
      | 'i' :: 'n' :: d :: haystack => if Text.isBlank d then some haystack else none
      | _ => none
    else none
  | [] => none

def cutAtIn? (cs : List Char) : Option (List Char × List Char) :=
  match cs with
  | [] => none
  | c :: rest =>
    if isQuote c then
      match _h : cutAt? c rest with
      | some (content, after) =>
        (cutAtIn? after).map fun p => (c :: content ++ c :: p.1, p.2)
      | none => none
    else
      match afterIn? (c :: rest) with
      | some haystack => some ([], haystack)
      | none => (cutAtIn? rest).map fun p => (c :: p.1, p.2)
termination_by cs.length
decreasing_by
  · have := length_of_cutAt? _h
    simp
    omega
  · simp

/-- A membership: atoms, the word `in` between blanks, atoms. The first such word counts. -/
def membership? (cs : List Char) : Option (List Char × List Char) :=
  if isAtoms cs then
    match cutAtIn? cs with
    | some (needle, haystack) =>
      if needle.isEmpty || haystack.isEmpty then none else some (needle, haystack)
    | none => none
  else none

def cutAtPair? (d : Char) : List Char → Option (List Char × List Char)
  | [] => none
  | [_] => none
  | a :: b :: rest =>
    if a = d ∧ b = d then some ([], rest)
    else (cutAtPair? d (b :: rest)).map fun p => (a :: p.1, p.2)

/-- The sides of a connective; neither is empty. -/
def connective? (d : Char) : List Char → Option (List Char × List Char)
  | [] => none
  | c :: rest =>
    match cutAtPair? d rest with
    | some (left, right) => if right.isEmpty then none else some (c :: left, right)
    | none => none

theorem cutAtPair?_eq {d : Char} {cs left right : List Char}
    (h : cutAtPair? d cs = some (left, right)) : cs = left ++ d :: d :: right := by
  fun_induction cutAtPair? d cs generalizing left with
  | case1 => simp at h
  | case2 => simp at h
  | case3 a b rest hd =>
    obtain ⟨rfl, rfl⟩ := hd
    simp_all
  | case4 a b rest hd ih =>
    obtain ⟨p, hp, heq⟩ := Option.map_eq_some_iff.1 h
    obtain ⟨rfl, rfl⟩ := Prod.mk.inj heq
    simp [ih hp]

theorem connective?_eq {d : Char} {cs left right : List Char}
    (h : connective? d cs = some (left, right)) :
    cs = left ++ d :: d :: right ∧ left ≠ [] ∧ right ≠ [] := by
  cases cs with
  | nil => simp [connective?] at h
  | cons c rest =>
    rw [connective?] at h
    split at h
    · rename_i l r hcut
      split at h
      · simp at h
      · rename_i hr
        obtain ⟨rfl, rfl⟩ := Prod.mk.inj (Option.some.inj h)
        exact ⟨by simp [cutAtPair?_eq hcut], by simp, by simpa using hr⟩
    · simp at h

def negation? : List Char → Option (List Char)
  | '!' :: c :: rest => some (c :: rest)
  | _ => none

theorem length_of_negation? {cs inner : List Char} (h : negation? cs = some inner) :
    inner.length < cs.length := by
  unfold negation? at h
  split at h
  · simp_all
  · simp at h

theorem length_of_connective? {d : Char} {cs left right : List Char}
    (h : connective? d cs = some (left, right)) :
    left.length < cs.length ∧ right.length < cs.length := by
  obtain ⟨rfl, -, -⟩ := connective?_eq h
  simp only [List.length_append, List.length_cons]
  omega

def operandText (cs : List Char) : String := String.ofList (trim cs)

def parseChars (cs : List Char) : Expr :=
  let text := trim cs
  if text.isEmpty then .always
  else
    match comparison? text with
    | some (left, op, right) => .compare (operandText left) op (operandText right)
    | none =>
      match membership? text with
      | some (needle, haystack) => .isIn (operandText needle) (operandText haystack)
      | none =>
        match _hand : connective? '&' text with
        | some (left, right) => .and (parseChars left) (parseChars right)
        | none =>
          match _hor : connective? '|' text with
          | some (left, right) => .or (parseChars left) (parseChars right)
          | none =>
            match _hnot : negation? text with
            | some inner => .not (parseChars inner)
            | none => .unsupported (String.ofList text)
termination_by cs.length
decreasing_by
  all_goals have hle : text.length ≤ cs.length := Text.length_trim_le cs
  · have := (length_of_connective? _hand).1
    omega
  · have := (length_of_connective? _hand).2
    omega
  · have := (length_of_connective? _hor).1
    omega
  · have := (length_of_connective? _hor).2
    omega
  · have := length_of_negation? _hnot
    omega

def parse (condition : String) : Expr := parseChars condition.toList

end WorkflowGraph.Condition
