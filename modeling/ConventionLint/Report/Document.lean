import ConventionLint.Report.Findings
import ConventionLint.Text.Number

/-! Findings as a JSON document. Records and lists are spread over lines, with two blanks for each level;
those without anything in them stay on one line. -/

namespace ConventionLint.Report

inductive Document where
  | number (n : Nat)
  | text (s : String)
  | list (items : List Document)
  | record (fields : List (String × Document))
  deriving Repr

namespace Document

def encodeChar (c : Char) : List Char :=
  match c with
  | '"' => ['\\', '"']
  | '\\' => ['\\', '\\']
  | '\n' => ['\\', 'n']
  | '\r' => ['\\', 'r']
  | '\t' => ['\\', 't']
  | '\x08' => ['\\', 'b']
  | '\x0c' => ['\\', 'f']
  | _ => if c.toNat < 32 then '\\' :: 'u' :: Text.hexOf 4 c.toNat else [c]

def quoted (s : String) : String := String.ofList ('"' :: s.toList.flatMap encodeChar ++ ['"'])

def indent (level : Nat) : String := "\n" ++ "".pushn ' ' (2 * level)

def bracketed (first last : String) (level : Nat) (pieces : List String) : String :=
  if pieces.isEmpty then first ++ last
  else first ++ ",".intercalate (pieces.map fun p => indent (level + 1) ++ p) ++ indent level ++ last

mutual

def renderAt (level : Nat) : Document → String
  | .number n => toString n
  | .text s => quoted s
  | .list items => bracketed "[" "]" level (renderItems (level + 1) items)
  | .record fields => bracketed "\x7b" "\x7d" level (renderFields (level + 1) fields)

def renderItems (level : Nat) : List Document → List String
  | [] => []
  | d :: ds => renderAt level d :: renderItems level ds

def renderFields (level : Nat) : List (String × Document) → List String
  | [] => []
  | (name, d) :: rest => (quoted name ++ ": " ++ renderAt level d) :: renderFields level rest

end

def render (d : Document) : String := renderAt 0 d

end Document

open Document

def Location.document (l : Location) : Document :=
  .record [("file", .text l.file), ("line", .number l.line), ("column", .number l.column),
    ("offset", .number l.offset), ("length", .number l.length)]

def Diagnostic.document (d : Diagnostic) : Document :=
  .record [("code", .text d.code), ("symbol", .text d.symbol), ("checker", .text d.checker),
    ("severity", .text d.severity.toName), ("location", d.location.document),
    ("args", .list (d.args.map Document.text)), ("message", .text d.message)]

def Findings.document (f : Findings) : Document :=
  .record [("diagnostics", .list (f.diagnostics.map Diagnostic.document)),
    ("files_checked", .number f.filesChecked)]

end ConventionLint.Report
