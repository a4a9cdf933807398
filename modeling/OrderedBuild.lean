import OrderedBuild.Main
import OrderedBuild.Proofs.Package.Marking
import OrderedBuild.Proofs.Run.Prerequisites
import OrderedBuild.Proofs.Run.Account
import OrderedBuild.Proofs.Run.Cancellation
import OrderedBuild.Proofs.Package.Replanning
import OrderedBuild.Proofs.Run.Builds
import OrderedBuild.Proofs.BuildConfig.Locations
import OrderedBuild.Proofs.BuildConfig.Rereading
import OrderedBuild.Proofs.Package.Reach
import OrderedBuild.Proofs.Package.Listing
import OrderedBuild.Proofs.BuildConfig.Targets
import OrderedBuild.Proofs.Run.Reporting
import OrderedBuild.Proofs.Package.Requirement
import OrderedBuild.Proofs.Package.Unfolding
import OrderedBuild.Proofs.Package.Routes
import OrderedBuild.Proofs.BuildConfig.Placement
import OrderedBuild.Proofs.Package.Composition
import OrderedBuild.Proofs.Test.Classification
import OrderedBuild.Proofs.Context
import OrderedBuild.Proofs.CommandLine
import OrderedBuild.Proofs.Run.Summary
import OrderedBuild.Proofs.Settings.Discovery
import OrderedBuild.Proofs.Program
