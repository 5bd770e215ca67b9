import SqlCatalog.Gate.Segment

/-!
# Rules about Words

The words and phrases that no query may hold outside its literals, and the ways
of looking for them. Each class of risk is a `WordRule`; a text breaks the rule
when one of its words is on the list, begins with the rule's stem, or begins the
rule's phrase.

## Main definitions

* `WordRule`: The words of one class of risk.
* `WordRule.search`: The first word of a text that breaks the rule.
* `forbidden`: The rules, in the order in which they are applied.
* `transactionPhrases`: Phrases looked for anywhere, words or not.
-/

namespace SqlCatalog

namespace Gate

/-- The words of one class of risk. -/
structure WordRule where
  name : String
  words : List String
  stem : Option String
  phrase : Option (String × String)

namespace WordRule

/-- A rule that consists of whole words only. -/
def ofWords (name : String) (words : List String) : WordRule :=
  ⟨name, words, none, none⟩

/-- Whether a word begins with the rule's stem. -/
def hasStem (r : WordRule) (w : List Char) : Bool :=
  r.stem.any fun s => s.toList.isPrefixOf w

/-- What breaks the rule at the start of the segments: a word, or two words with a
    blank between them. -/
def matchAt (r : WordRule) : List Segment → Option (List Char)
  | .word w :: rest =>
    if r.hasStem w || r.words.contains (String.ofList w) then some w
    else match r.phrase, rest with
      | some (first, second), .mark ' ' :: .word v :: _ =>
        if w = first.toList && v = second.toList then some (w ++ ' ' :: v) else none
      | _, _ => none
  | _ => none

/-- The first place of the segments that breaks the rule. -/
def searchSegments (r : WordRule) : List Segment → Option (List Char)
  | [] => none
  | s :: rest => (r.matchAt (s :: rest)).or (r.searchSegments rest)

/-- The first part of a text that breaks the rule. -/
def search (r : WordRule) (s : List Char) : Option (List Char) :=
  r.searchSegments (segments s)

end WordRule

/-- The rules about forbidden words, in the order in which they are applied. -/
def forbidden : List WordRule := [
  .ofWords "data_mutation" ["INSERT", "UPDATE", "DELETE", "TRUNCATE", "MERGE"],
  .ofWords "schema_mutation" ["DROP", "CREATE", "ALTER", "RENAME"],
  .ofWords "execution" ["EXEC", "EXECUTE", "SP_EXECUTESQL", "XP_CMDSHELL"],
  .ofWords "administrative" ["SHUTDOWN", "RECONFIGURE", "DBCC", "KILL"],
  .ofWords "security" ["GRANT", "REVOKE", "DENY"],
  .ofWords "backup_restore" ["BACKUP", "RESTORE", "DUMP"],
  ⟨"dangerous_function",
    ["SP_CONFIGURE", "SP_ADDSRVROLEMEMBER", "SP_ADDLOGIN", "OPENROWSET", "OPENDATASOURCE",
      "OPENQUERY", "BCP"],
    some "XP_", some ("BULK", "INSERT")⟩]

/-- Functions that make a query wait. -/
def timing : WordRule :=
  .ofWords "timing_attack" ["WAITFOR", "DELAY", "SLEEP", "BENCHMARK"]

/-- Phrases of transaction control. They are looked for anywhere, because some
    spellings run straight into the next word. -/
def transactionPhrases : List String :=
  ["BEGIN TRANSACTION", "BEGIN TRAN", "COMMIT", "ROLLBACK", "SAVE TRANSACTION"]

/-- Whether a text holds another one. -/
def containsText (part : List Char) : List Char → Bool
  | [] => part.isEmpty
  | c :: rest => part.isPrefixOf (c :: rest) || containsText part rest

/-- How often a word occurs in a text. -/
def countWord (word : String) (s : List Char) : Nat :=
  (wordsOf s).count word.toList

/-- Whether a text begins with one of the words. -/
def startsWithWord (words : List String) (s : List Char) : Bool :=
  match segments s with
  | .word w :: _ => words.contains (String.ofList w)
  | _ => false

/-- Whether one word occurs and another one after it. -/
def followedBy (first second : String) (s : List Char) : Bool :=
  match (wordsOf s).dropWhile (· != first.toList) with
  | [] => false
  | _ :: later => later.contains second.toList

/-- A digit of a hexadecimal number in upper case. -/
def isHexDigit (c : Char) : Bool :=
  c.isDigit || ('A' ≤ c && c ≤ 'F')

/-- Whether a word is a hexadecimal literal: a zero, an X and a digit, then anything. -/
def isHexLiteral : List Char → Bool
  | '0' :: 'X' :: c :: _ => isHexDigit c
  | _ => false

/-- How many hexadecimal literals a text holds. -/
def countHexLiterals (s : List Char) : Nat :=
  (wordsOf s).countP isHexLiteral

/-- How many segments are a word that calls for a character code. -/
def countCharCalls : List Segment → Nat
  | .word w :: rest =>
    let call := match rest with
      | .mark '(' :: _ => w = "CHAR".toList || w = "NCHAR".toList
      | _ => false
    (if call then 1 else 0) + countCharCalls rest
  | .mark _ :: rest => countCharCalls rest
  | [] => 0

end Gate

end SqlCatalog
