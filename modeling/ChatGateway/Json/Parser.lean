import ChatGateway.Json.Basic

namespace ChatGateway.Json

open Number

def isSpace (c : Char) : Bool :=
  c == ' ' || c == '\n' || c == '\t' || c == '\r'

def skipSpace (s : List Char) : List Char :=
  s.dropWhile isSpace

def quoted (s : List Char) : Json × Option (List Char) :=
  let (q, rest) := Quoted.scan s
  (.string q, if q.closed then some rest else none)

def numeral (s : List Char) : Json × Option (List Char) :=
  match Numeral.scan s with
  | some (n, rest) => (.number n, some rest)
  | none => (.broken, none)

mutual

def value : Nat → List Char → Json × Option (List Char)
  | 0, _ => (.broken, none)
  | fuel + 1, s =>
    match skipSpace s with
    | 'n' :: 'u' :: 'l' :: 'l' :: s => (.null, some s)
    | 't' :: 'r' :: 'u' :: 'e' :: s => (.bool true, some s)
    | 'f' :: 'a' :: 'l' :: 's' :: 'e' :: s => (.bool false, some s)
    | '"' :: s => quoted s
    | '[' :: s =>
      match skipSpace s with
      | ']' :: s => (.array [] true, some s)
      | s =>
        let (vs, rest) := elements fuel s
        (.array vs rest.isSome, rest)
    | '\x7b' :: s =>
      match skipSpace s with
      | '\x7d' :: s => (.object [] true, some s)
      | s =>
        let (ms, rest) := members fuel s
        (.object ms rest.isSome, rest)
    | s => numeral s

def elements : Nat → List Char → List Json × Option (List Char)
  | 0, _ => ([], none)
  | fuel + 1, s =>
    match value fuel s with
    | (v, none) => ([v], none)
    | (v, some s) =>
      match skipSpace s with
      | ',' :: s =>
        let (vs, rest) := elements fuel s
        (v :: vs, rest)
      | ']' :: s => ([v], some s)
      | _ => ([v], none)

def members : Nat → List Char → List (Option Quoted × Json) × Option (List Char)
  | 0, _ => ([], none)
  | fuel + 1, s =>
    match skipSpace s with
    | '"' :: s =>
      let (key, s) := Quoted.scan s
      if key.closed then
        match skipSpace s with
        | ':' :: s =>
          match value fuel s with
          | (v, none) => ([(some key, v)], none)
          | (v, some s) =>
            match skipSpace s with
            | ',' :: s =>
              let (ms, rest) := members fuel s
              ((some key, v) :: ms, rest)
            | '\x7d' :: s => ([(some key, v)], some s)
            | _ => ([(some key, v)], none)
        | _ => ([(some key, .broken)], none)
      else ([(some key, .broken)], none)
    | s => ([(none, (value fuel s).1)], none)

end

end ChatGateway.Json
