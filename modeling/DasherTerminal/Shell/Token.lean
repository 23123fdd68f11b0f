import DasherTerminal.Shell.Syntax

/-!
# Tokens

What a script is cut into, and the faults that reading it can meet.
-/

namespace DasherTerminal.Shell

inductive Token where
  | word (pieces : Word)
  /-- A reserved word or an operator. -/
  | sign (text : String)
  | newline
  | ending
  | redirection (descriptor : Nat) (sign : String)

def Token.name : Token → String
  | .word _ => "word"
  | .sign text => "\"" ++ text ++ "\""
  | .newline => "newline"
  | .ending => "end of file"
  | .redirection _ _ => "redirection"

inductive SyntaxFault where
  | unexpected (found : String) (expected : Option String)
  | loopVariable
  | functionName
  | descriptor
  | openQuote
  | openBrace
  | openArithmetic
  | openBackquote
  | depth
  deriving DecidableEq, Repr

def SyntaxFault.message : SyntaxFault → String
  | .unexpected found none => found ++ " unexpected"
  | .unexpected found (some expected) => found ++ " unexpected (expecting " ++ expected ++ ")"
  | .loopVariable => "Bad for loop variable"
  | .functionName => "Bad function name"
  | .descriptor => "Bad fd number"
  | .openQuote => "Unterminated quoted string"
  | .openBrace => "Missing '\x7d'"
  | .openArithmetic => "Missing '))'"
  | .openBackquote => "EOF in backquote substitution"
  | .depth => "nested too deeply"

/-- Whether more script could help. -/
def SyntaxFault.isOpen : SyntaxFault → Bool
  | .unexpected found _ => found == Token.ending.name
  | .openQuote | .openBrace | .openArithmetic | .openBackquote => true
  | _ => false

def reserved : List String :=
  ["!", "case", "do", "done", "elif", "else", "esac", "fi", "for", "if", "in", "then", "until",
    "while", "\x7b", "\x7d"]

def Token.asReserved (t : Token) : Token :=
  match t with
  | .word w =>
    match w.bare? with
    | some cs =>
      let text := String.ofList cs
      if reserved.contains text then .sign text else t
    | none => t
  | _ => t

def Token.isSign (t : Token) (text : String) : Bool :=
  match t with
  | .sign s => s == text
  | _ => false

def Token.endsList (t : Token) : Bool :=
  match t with
  | .ending => true
  | .sign s => [")", ";;", "do", "done", "elif", "else", "esac", "fi", "then", "\x7d"].contains s
  | _ => false

end DasherTerminal.Shell
