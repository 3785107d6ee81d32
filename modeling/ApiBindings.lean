import ApiBindings.Main
import ApiBindings.OpenApi.Written
import ApiBindings.Synthesis.Nesting
import ApiBindings.Proofs.TypeText.Rendering
import ApiBindings.Proofs.Bindings.Listing
import ApiBindings.Proofs.Bindings.PathParameters
import ApiBindings.Proofs.Swagger.Schema
import ApiBindings.Proofs.Generation.NamesApart
import ApiBindings.Proofs.Swagger.ParameterSurvival
import ApiBindings.Proofs.Swagger.References
import ApiBindings.Proofs.Swagger.PayloadTypes
import ApiBindings.Proofs.Generation.UnknownKeys
import ApiBindings.Proofs.Generation.VendorEntries
import ApiBindings.Proofs.Generation.NamesDeclared
import ApiBindings.Proofs.Bindings.ParameterNames
import ApiBindings.Proofs.Bindings.Variables
import ApiBindings.Proofs.Loading.Answers
import ApiBindings.Proofs.CommandLine.Runs
import ApiBindings.Proofs.Synthesis.Faults
import ApiBindings.Proofs.Bindings.ParameterChain
import ApiBindings.Proofs.Bindings.Interpolations
import ApiBindings.Proofs.Bindings.Trailing
import ApiBindings.Proofs.Bindings.Requirements
import ApiBindings.Proofs.Source.Keys
import ApiBindings.Proofs.TypeText.Summands
import ApiBindings.Proofs.Generation.Interfaces
import ApiBindings.Proofs.TypeScript.PascalCase
import ApiBindings.Proofs.Bindings.ResponseUnions
import ApiBindings.Proofs.Configuration.Lookup
import ApiBindings.Proofs.Source.PathLiteral
import ApiBindings.Proofs.Swagger.Repetition
import ApiBindings.Proofs.Swagger.NormalForm
import ApiBindings.Proofs.Synthesis.RootOperators
import ApiBindings.Proofs.Synthesis.Nesting
import ApiBindings.Proofs.OpenApi.Written
import ApiBindings.Proofs.Bindings.PlaceholderVariables
