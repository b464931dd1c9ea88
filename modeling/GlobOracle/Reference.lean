import GlobOracle.Command

/-!
# The reference of options

A text for the callers of the tools that lists the options, each toggle with the names of the shell for
it and each alias with its toggle.
-/

namespace GlobOracle.Reference

/-- A name in a column of thirteen characters, and what is said about it. -/
def row (name description : String) : String :=
  name ++ String.ofList (List.replicate (13 - name.length) ' ') ++ " " ++ description

/-- The lines of the reference. -/
def lines : List String :=
  [row "option" "bash shopt"] ++
  Toggle.all.map (fun t => row t.name (", ".intercalate (Command.shellNames t))) ++
  Alias.all.map (fun a => row a.name ("alias for " ++ a.target.name)) ++
  [row Field.strictErrors.name "raise on bash errors instead of returning false",
    row Field.workingDirectory.name "working directory bash runs in",
    "",
    "globstar is enabled automatically when the pattern contains '**';",
    "extglob when it contains ?( *( +( @( or !(."]

/-- The reference, every line with its end. -/
def text : String := String.join (lines.map (· ++ "\n"))

end GlobOracle.Reference
