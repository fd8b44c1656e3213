import HostLink.Host.Basic

/-!
Functions that follow a script: the n-th call does what the n-th action says, and the last action
goes on for all further calls. Actions look at the program alone, which is the last argument.
-/

namespace HostLink

inductive Action where
  | returns (v : Value)
  | raises (fault : Fault)
  /-- Gives the program back after a text. -/
  | echoes (lead : String)
  | hangs
  /-- Does what goes with the first text that occurs in the program. -/
  | matching (cases : List (String × Action)) (otherwise : Action)

namespace Action

def occursIn (part : List Char) : List Char → Bool
  | [] => part.isEmpty
  | c :: rest => part.isPrefixOf (c :: rest) || occursIn part rest

mutual

def reply (program : String) : Action → Reply
  | .returns v => .returns v
  | .raises fault => .raises fault
  | .echoes lead => .returns (.text (lead ++ program))
  | .hangs => .hangs
  | .matching cases otherwise =>
    match replyOfCases program cases with
    | some r => r
    | none => reply program otherwise
termination_by structural action => action

def replyOfCases (program : String) : List (String × Action) → Option Reply
  | [] => none
  | c :: rest =>
    match replyOfCase program c with
    | some r => some r
    | none => replyOfCases program rest
termination_by structural cases => cases

def replyOfCase (program : String) : String × Action → Option Reply
  | (part, action) =>
    if occursIn part.toList program.toList then some (reply program action) else none
termination_by structural c => c

end

/-- The action of a call that comes after `calls` others. -/
def nth (script : List Action) (calls : Nat) : Action :=
  (script[calls]?.or script.getLast?).getD (.returns .null)

end Action

def programOf (args : List Value) : String :=
  match args.getLast? with
  | some (.text program) => program
  | _ => ""

def Function.scripted (script : List Action) : Function where
  respond calls args := (Action.nth script calls).reply (programOf args)

end HostLink
