import SyntaxSpans.Files.Path
import SyntaxSpans.Languages.CSharp
import SyntaxSpans.Languages.Java
import SyntaxSpans.Languages.Python

set_option autoImplicit false

namespace SyntaxSpans

inductive Language where
  | csharp
  | java
  | python
  deriving DecidableEq

namespace Language

def all : List Language := [csharp, java, python]

def name : Language → String
  | csharp => "csharp"
  | java => "java"
  | python => "python"

/-- The language of a name in any case of letters; the usual short names are second names. -/
def ofName (name : String) : Except UnknownName Language :=
  match foldCase name with
  | "csharp" | "c#" | "cs" => .ok csharp
  | "java" => .ok java
  | "python" | "py" => .ok python
  | folded => .error (.language folded)

/-- The language of a file name extension. Extensions are exact: `CS` is none of them. -/
def ofExtension? : String → Option Language
  | "cs" => some csharp
  | "java" => some java
  | "py" | "pyi" => some python
  | _ => none

def detect? (path : String) : Option Language := (Path.extension? path).bind ofExtension?

def grammar : Language → Grammar
  | csharp => CSharp.grammar
  | java => Java.grammar
  | python => Python.grammar

def registry : Language → Registry
  | csharp => CSharp.registry
  | java => Java.registry
  | python => Python.registry

end Language

end SyntaxSpans
