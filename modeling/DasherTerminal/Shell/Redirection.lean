import DasherTerminal.Shell.Script

/-!
# Redirections

What a command reads and writes instead of what the shell does.
-/

namespace DasherTerminal.Shell

namespace Run

def openReason (fault : SystemFault) (creating : Bool) : Chars :=
  match fault with
  | .notFound | .notDirectory =>
    (if creating then "Directory nonexistent" else "No such file").toList
  | _ => Program.reason fault

/-- Redirect a descriptor. Tells whether that worked; if not, it was complained
about. -/
def redirect (inner : Inner) (depth : Nat) : Redirection → Run Bool
  | .to descriptor direction target => do
    let name ← text (output inner) depth target
    let opened (result : Except SystemFault Channel) (verb : String) (creating : Bool) :
        Run Bool := do
      match result with
      | .ok channel =>
        connect descriptor (some channel)
        return true
      | .error fault =>
        complain (("cannot " ++ verb ++ " ").toList ++ name ++ ": ".toList ++
          openReason fault creating)
        return false
    match direction with
    | .read => opened (← openInput name) "open" false
    | .write => opened (← openOutput name false) "create" true
    | .append => opened (← openOutput name true) "create" true
    | .both => opened (← openOutput name true) "create" true
    | .here =>
      connect descriptor (some (.text (← newText name)))
      return true
    | .copy =>
      match name with
      | ['-'] =>
        connect descriptor none
        return true
      | [c] =>
        if !isDigit c then fail "Syntax error: Bad fd number".toList 2
        match ← channel? (c.toNat - '0'.toNat) with
        | some channel =>
          connect descriptor (some channel)
          return true
        | none =>
          complain (c :: ": Bad file descriptor".toList)
          return false
      | _ => fail "Syntax error: Bad fd number".toList 2

/-- Redirect descriptors up to the first that fails. -/
def redirectAll (inner : Inner) (depth : Nat) (rs : List Redirection) : Run Bool :=
  rs.foldlM (fun going r => if going then redirect inner depth r else return false) true

end Run

end DasherTerminal.Shell
