import DiceNotation.Text.Blank
import DiceNotation.Text.Lines

/-!
# History

The lines entered so far, oldest first and at most a hundred of them. A history file begins with a
version line and then holds a line for each entry, in which backslashes and line breaks are
escaped; a file without the version line holds its entries as they are.
-/

namespace DiceNotation

def historyCapacity : Nat := 100

structure History where
  /-- Lines that begin with white space are entries too. -/
  keepIndented : Bool
  entries : List String
  /-- How many of the newest entries are in no file yet. -/
  fresh : Nat
  /-- The number of entries that were loaded from a file of the present version which holds
  nothing else, so that new entries may simply follow. -/
  loaded : Option Nat
  deriving Repr, DecidableEq

namespace History

def empty (keepIndented : Bool) : History := ⟨keepIndented, [], 0, none⟩

/-- A line becomes an entry unless it is empty, indented, or repeats the entry before it. -/
def accepts (h : History) (line : String) : Bool :=
  match line.toList with
  | [] => false
  | c :: _ => (h.keepIndented || !isBlank c) && h.entries.getLast? ≠ some line

/-- The history with one more line; the oldest entry goes when there is no room. -/
def add (h : History) (line : String) : History :=
  if h.accepts line then
    let entries := h.entries ++ [line]
    let entries := entries.drop (entries.length - historyCapacity)
    { h with entries := entries, fresh := min (h.fresh + 1) entries.length }
  else h

def newest? (h : History) (start : String) : Option String :=
  h.entries.reverse.find? fun entry => start.toList.isPrefixOf entry.toList

/-- The first line of a file of the present version. -/
def versionLine : String := "#V2"

/-- The line of an entry. -/
def escape : List Char → List Char
  | [] => []
  | '\n' :: cs => '\x5c' :: 'n' :: escape cs
  | '\x5c' :: cs => '\x5c' :: '\x5c' :: escape cs
  | c :: cs => c :: escape cs

/-- The entry of a line, if all its escapes are known. -/
def unescape? : List Char → Option (List Char)
  | [] => some []
  | '\x5c' :: 'n' :: cs => (unescape? cs).map ('\n' :: ·)
  | '\x5c' :: '\x5c' :: cs => (unescape? cs).map ('\x5c' :: ·)
  | '\x5c' :: _ => none
  | c :: cs => (unescape? cs).map (c :: ·)

def fileLines (entries : List String) : String :=
  String.join (entries.map fun entry => String.ofList (escape entry.toList) ++ "\n")

/-- The text of a whole file. -/
def fileText (entries : List String) : String := versionLine ++ "\n" ++ fileLines entries

/-- The history with the entries of a file, none of which counts as new. -/
def load (h : History) (text : String) : History :=
  match textLines text.toList with
  | [] => { h with fresh := 0, loaded := none }
  | first :: lines =>
    if String.ofList first = versionLine then
      let lines := lines.filter (· ≠ [])
      let (after, complete) := lines.foldl addLine (h, true)
      { after with
        fresh := 0
        loaded := if complete then some (after.entries.length - h.entries.length) else none }
    else
      let after := ((first :: lines).map String.ofList).foldl add h
      { after with fresh := 0, loaded := none }
where
  /-- Adds a line, with its escapes undone unless one of them is unknown, and notes whether every
  line so far became an entry. -/
  addLine (state : History × Bool) (line : List Char) : History × Bool :=
    let entry := String.ofList ((unescape? line).getD line)
    (state.1.add entry, state.2 && state.1.accepts entry)

def freshEntries (h : History) : List String := h.entries.drop (h.entries.length - h.fresh)

/-- The contents of the file after the new entries have been added to it, given its contents
before; `none` if there is nothing to write. New entries follow those of a file that was loaded
as it is; else the file is written anew. -/
def save? (h : History) (file : Option String) : Option String :=
  if h.fresh = 0 then none
  else
    match file with
    | none => some (fileText h.entries)
    | some before =>
      if h.fresh = historyCapacity then some (fileText h.entries)
      else if appends then some (before ++ fileLines h.freshEntries)
      else
        let onFile := (empty h.keepIndented).load before
        some (fileText (h.freshEntries.foldl add onFile).entries)
where
  /-- The file may be appended to, and has room. -/
  appends : Bool :=
    match h.loaded with
    | none => false
    | some n => n < historyCapacity && n + h.fresh ≤ historyCapacity

end History

end DiceNotation
