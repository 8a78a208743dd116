import ChatGateway.Json.Basic

namespace ChatGateway.Json

def Quoted.written (q : Quoted) : List Char :=
  '"' :: q.raw ++ if q.closed then ['"'] else []

def close (c : Char) (closed : Bool) : List Char :=
  if closed then [c] else []

mutual

def written : Json → List Char
  | .null => "null".toList
  | .bool true => "true".toList
  | .bool false => "false".toList
  | .number n => n.text
  | .string s => s.written
  | .array items closed => '[' :: writtenItems items ++ close ']' closed
  | .object members closed => '\x7b' :: writtenMembers members ++ close '\x7d' closed
  | .broken => []

def writtenItems : List Json → List Char
  | [] => []
  | [v] => v.written
  | v :: vs => v.written ++ ',' :: writtenItems vs

def writtenMembers : List (Option Quoted × Json) → List Char
  | [] => []
  | [m] => writtenMember m
  | m :: ms => writtenMember m ++ ',' :: writtenMembers ms

def writtenMember : Option Quoted × Json → List Char
  | (some key, v) => key.written ++ ':' :: v.written
  | (none, v) => v.written

end

def render (v : Json) : String :=
  String.ofList v.written

end ChatGateway.Json
