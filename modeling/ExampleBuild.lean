import ExampleBuild.Main
import ExampleBuild.Proofs.Arguments.Acceptance
import ExampleBuild.Proofs.Arguments.Mixture
import ExampleBuild.Proofs.Arguments.Respelling
import ExampleBuild.Proofs.Build.Accounting
import ExampleBuild.Proofs.Build.Confinement
import ExampleBuild.Proofs.Build.Order
import ExampleBuild.Proofs.Build.Restoration
import ExampleBuild.Proofs.Entry.Commands
import ExampleBuild.Proofs.Program.ExitCode
import ExampleBuild.Proofs.Program.Formats
import ExampleBuild.Proofs.Program.Preview
import ExampleBuild.Proofs.Report.ReadBack
import ExampleBuild.Proofs.Arguments.Conservation
import ExampleBuild.Proofs.Build.Stops
import ExampleBuild.Proofs.Entry.ProjectEnvironment
import ExampleBuild.Proofs.Entry.Listing
import ExampleBuild.Proofs.Arguments.Synonyms
import ExampleBuild.Proofs.Path.Names
import ExampleBuild.Proofs.Report.Durations
import ExampleBuild.Proofs.Entry.ArtifactPlaces
import ExampleBuild.Proofs.Text.LossyReading
import ExampleBuild.Proofs.Path.Absolute
import ExampleBuild.Proofs.Entry.AnchoredCompiler
import ExampleBuild.Proofs.Path.Parent
import ExampleBuild.Proofs.Entry.ExtraArguments
