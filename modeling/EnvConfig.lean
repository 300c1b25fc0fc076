import EnvConfig.CommandLine.Run
import EnvConfig.Main
import EnvConfig.Samples
import EnvConfig.Proofs.Layout
import EnvConfig.Proofs.Nesting
import EnvConfig.Proofs.Durations
import EnvConfig.Proofs.RoundTrip
import EnvConfig.Proofs.Items
import EnvConfig.Proofs.Closure
import EnvConfig.Proofs.Generation
import EnvConfig.Proofs.Relevance
import EnvConfig.Proofs.Scaffold
import EnvConfig.Proofs.Evaluation
import EnvConfig.Proofs.Runs
import EnvConfig.Proofs.Collisions
import EnvConfig.Proofs.Barriers
import EnvConfig.Proofs.Printing
import EnvConfig.Proofs.PlainCode
import EnvConfig.Proofs.Unreadable
import EnvConfig.Proofs.Paragraphs
import EnvConfig.Proofs.BalancedCode
import EnvConfig.Proofs.Gates
import EnvConfig.Proofs.Faults
import EnvConfig.Proofs.Precision
import EnvConfig.Proofs.FirstCollision
import EnvConfig.Proofs.Integers
import EnvConfig.Proofs.Keys
import EnvConfig.Proofs.Sentinels
import EnvConfig.Proofs.Occurrences
import EnvConfig.Proofs.FirstObstacle
import EnvConfig.Proofs.Paths
import EnvConfig.Proofs.Replacement
import EnvConfig.Proofs.Announcement
import EnvConfig.Proofs.Validity
import EnvConfig.Proofs.Places
import EnvConfig.Proofs.Messages
import EnvConfig.Proofs.Infinity
import EnvConfig.Proofs.BelowZero
import EnvConfig.Proofs.Outputs
import EnvConfig.Proofs.LoaderRuns
