import MergeTurn.Http.Message

set_option autoImplicit false

/-!
# Media types

## Main definitions

* `MergeTurn.Http.isJsonType` — whether a media type is one of JSON.
-/

namespace MergeTurn.Http

/-- Whether a character may stand in a token. -/
def isTokenChar (c : Char) : Bool :=
  c.isAlphanum || "!#$%&'*+-.^_|~\x60".toList.contains c

/-- Whether a text is a token. -/
def isToken (cs : List Char) : Bool :=
  !cs.isEmpty && cs.all isTokenChar

/-- What follows a quoted value of a parameter and the blanks behind it, if the quote is closed. The
value has at least one character, and so a quote that follows the opening one is part of it. -/
def afterQuoted? : List Char → Option (List Char)
  | [] => none
  | c :: r =>
    let content := c :: r.takeWhile (· != '"')
    match r.dropWhile (· != '"') with
    | _ :: rest => if content.contains '\t' then none else some (rest.dropWhile (· == ' '))
    | [] => none

/-- What follows the value of a parameter, if the value is well formed. Only the last parameter may
be without a value. -/
def afterValue? : List Char → Option (List Char)
  | [] => some []
  | '"' :: r => afterQuoted? r
  | cs => if isToken (cs.takeWhile (· != ';')) then some (cs.dropWhile (· != ';')) else none

/-- Whether what follows the name of a type are parameters, at most a number of them. -/
def areParameters : Nat → List Char → Bool
  | 0, cs => cs.isEmpty
  | _ + 1, [] => true
  | n + 1, ';' :: r =>
    let r := r.dropWhile (· == ' ')
    if r.isEmpty then true
    else if isToken (r.takeWhile (· != '=')) then
      match r.dropWhile (· != '=') with
      | _ :: value =>
        match afterValue? value with
        | some rest => areParameters n rest
        | none => false
      | [] => false
    else false
  | _ + 1, _ :: _ => false

/-- Whether a media type is one of JSON: `application/json`, or an application type that ends in
`+json`. Letter case and parameters do not count. -/
def isJsonType (s : String) : Bool :=
  let cs := caseless s
  let kind := cs.takeWhile (· != '/')
  let rest := (cs.dropWhile (· != '/')).drop 1
  let name := rest.takeWhile (· != ';')
  let parameters := rest.dropWhile (· != ';')
  let suffix := (name.reverse.takeWhile (· != '+')).reverse
  let front := (name.reverse.dropWhile (· != '+')).reverse
  kind == "application".toList && isToken name && areParameters parameters.length parameters &&
    (suffix == "json".toList && front != ['+'] || front == "json+".toList)

example : isJsonType "application/json" ∧ isJsonType "Application/JSON; charset=utf-8" ∧
    isJsonType "application/vnd.x+json" ∧ ¬ isJsonType "text/json" ∧ ¬ isJsonType "json" ∧
    ¬ isJsonType "" := by decide +kernel

end MergeTurn.Http
