import WorkflowGraph.Document.Loading
set_option autoImplicit false

namespace WorkflowGraph

structure Directory where
  files : List (List String × String)

namespace Directory

def parts (path : String) : List String := (Text.pieces '/' path.toList).map String.ofList

def ofList (files : List (String × String)) : Directory :=
  ⟨files.map fun e => ((parts e.1).filter fun part => part ≠ "" && part ≠ ".", e.2)⟩

def file? (d : Directory) (place : List String) : Option String :=
  (d.files.find? (·.1 = place)).map (·.2)

def isFolder (d : Directory) (place : List String) : Bool :=
  d.files.any fun e => place.isPrefixOf e.1 && place ≠ e.1

def follow? (d : Directory) (place : List String) : List String → Option String
  | [] => none
  | part :: rest =>
    if part = "" || part = "." then follow? d place rest
    else if part = ".." then if place.isEmpty then none else follow? d place.dropLast rest
    else if d.isFolder (place ++ [part]) then follow? d (place ++ [part]) rest
    else if rest.isEmpty then d.file? (place ++ [part])
    else none

def read? (d : Directory) : Files := fun path =>
  match parts path with
  | "" :: _ => none
  | parts => d.follow? [] parts

end Directory

end WorkflowGraph
