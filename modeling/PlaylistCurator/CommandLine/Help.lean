import PlaylistCurator.CommandLine.Grammar
import PlaylistCurator.Configuration.Location

/-!
# Help

What is printed without a job being done. The program words its version and the summary of its
commands by itself. All other help, what is at fault in a command line and the scripts by which
shells complete one are worded by the library that reads command lines, which is not described here:
any `Texts` can stand for it.

* `summary`: the summary of the commands;
* `Refusal.text`: what is printed about a command line that gives no command.
-/

namespace PlaylistCurator.CommandLine

/-- The name of the program. -/
def programName : String := "spotcrates"

/-- The line that tells the version. -/
def versionText : String := programName ++ " 0.3.0\n"

/-- The width of the column with the names of commands. -/
def nameWidth : Nat :=
  (Verb.all.map (·.name.length)).foldl max 0

/-- The line about a command in the summary. -/
def summaryLine (verb : Verb) : String :=
  String.ofList (List.rightpad nameWidth ' ' verb.name.toList) ++ "  " ++ verb.description ++ "\n"

/-- The summary of the commands. -/
def summary : String :=
  String.join (Verb.all.map summaryLine)

/-- The texts that the program leaves to the library that reads command lines. -/
structure Texts where
  /-- About a command line that gives no command, which may quote its arguments and show the values
  of the environment. -/
  refusal : Environment → (arguments : List String) → Refusal → String
  /-- The script by which a shell completes the command lines of a program of some name. -/
  completion : Shell → (program : String) → String

/-- No texts, for a program without such a library. -/
def Texts.blank : Texts where
  refusal _ _ _ := ""
  completion _ _ := ""

/-- What is printed about a command line that gives no command. -/
def Refusal.text (texts : Texts) (environment : Environment) (arguments : List String) :
    Refusal → String
  | .version => versionText
  | refusal => texts.refusal environment arguments refusal

end PlaylistCurator.CommandLine
