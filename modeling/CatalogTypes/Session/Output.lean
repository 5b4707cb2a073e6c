import CatalogTypes.Session.Basic

/-!
# Writing and verifying the output file

The output is written to a file, for which directories are made, or compared with the file that is
there.  Nothing is written when it is compared.
-/

namespace CatalogTypes.Run

/-- Makes a change to the files for an output file, and fails if it does. -/
def changeFiles (outFile : String) (change : Disk → FileTree → Disk.Outcome) : Run Unit := do
  let s ← get
  let (files, fault?) := change s.disk s.files
  modify fun s => { s with files }
  match fault? with
  | some fault => throw (.ofWriting outFile fault)
  | none => pure ()

/-- Writes the output to a file, for which directories are made. -/
def writeOutput (output outFile : String) : Run Unit :=
  within { operation := some (.str "write") } do
    let path := Path.ofString outFile
    changeFiles outFile (·.makeDirectories · path.parent)
    changeFiles outFile (·.writeFile · path output)
    note .generator Log.Level.info ("Wrote types to '" ++ outFile ++ "'")

/-- Compares the output with a file. -/
def verifyOutput (output : String) (outFile : Option String) : Run Unit :=
  within { operation := some (.str "verify") } do
    match outFile.filter (!·.isEmpty) with
    | none => throw .noOutputFile
    | some file =>
      match ← findFile file with
      | none => throw (.stale file .noFile)
      | some content =>
        let text ← ofExcept .undecodable content.read
        if text ≠ output then throw (.stale file .differs)
        note .generator Log.Level.info ("Generated types are up-to-date with '" ++ file ++ "'")

end CatalogTypes.Run
