import ExampleBuild.Entry
import ExampleBuild.Outcome
import ExampleBuild.Text.Json

namespace ExampleBuild

/-! Plans and outcomes as JSON. The kind of an entry and the status of an outcome tell
which members follow. -/

def Treatment.members : Treatment → List (String × Json)
  | .compile artifact => [("kind", .string "single_file"), ("artifact", .string artifact)]
  | .make => [("kind", .string "project")]
  | .excluded => [("kind", .string "skipped")]
  | .ignored => [("kind", .string "ignored")]

def Entry.toJson (entry : Entry) : Json :=
  .objectOf (("name", .string entry.name) :: entry.treatment.members)

def Plan.toJson (plan : Plan) : Json :=
  .objectOf [("entries", .arrayOf (plan.entries.map Entry.toJson))]

def Fault.toJson : Fault → Json
  | .exited code =>
      let written := match code with
        | some code => Json.number code
        | none => Json.null
      .objectOf [("kind", .string "exit"), ("code", written)]
  | .notLaunched program message =>
      .objectOf [("kind", .string "launch"), ("program", .string program),
        ("message", .string message)]

def Outcome.toJson : Outcome → Json
  | .succeeded summary =>
      .objectOf [("status", .string "succeeded"), ("built", .strings summary.built),
        ("skipped", .strings summary.skipped), ("ignored", .strings summary.ignored)]
  | .failed failure =>
      .objectOf [("status", .string "failed"), ("entry", .string failure.entry),
        ("reason", failure.fault.toJson), ("built_before", .strings failure.builtBefore)]

end ExampleBuild
