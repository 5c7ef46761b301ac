import FlagEngine.Client
import FlagEngine.Datafile.Decode
import FlagEngine.Datafile.Encode
import FlagEngine.Prediction.Exchange
import FlagEngine.Proofs.Bandit.Marks
import FlagEngine.Proofs.Bandit.Views
import FlagEngine.Proofs.Bandit.Invalidation
import FlagEngine.Proofs.Interleaving
import FlagEngine.Proofs.Bandit.Key
import FlagEngine.Proofs.Bandit.Provenance
import FlagEngine.Proofs.Discipline
import FlagEngine.Proofs.Stickiness
import FlagEngine.Proofs.Assignments
import FlagEngine.Proofs.World
import FlagEngine.Proofs.WriteBack
import FlagEngine.Proofs.Uniformity
import FlagEngine.Proofs.Batch
import FlagEngine.Proofs.Calls
import FlagEngine.Proofs.Rules
import FlagEngine.Proofs.Snapshots
import FlagEngine.Proofs.Catalogue
import FlagEngine.Proofs.Statuses
import FlagEngine.Proofs.Conditions
import FlagEngine.Proofs.Resemblance
import FlagEngine.Proofs.Consulted
import FlagEngine.Proofs.Ineffective
import FlagEngine.Proofs.EarlyStages
import FlagEngine.Proofs.Placements
import FlagEngine.Proofs.FreshSaves
import FlagEngine.Proofs.Runs
import FlagEngine.Proofs.Reports
import FlagEngine.Proofs.Bandit.Stage
import FlagEngine.Proofs.Bandit.Search
import FlagEngine.Proofs.Bandit.Failures
import FlagEngine.Proofs.Bandit.Events
import FlagEngine.Proofs.Json.Numerals
import FlagEngine.Proofs.Json.Floats
import FlagEngine.Proofs.Json.Written
import FlagEngine.Proofs.Json.Fields
import FlagEngine.Proofs.Json.Regular
import FlagEngine.Proofs.Datafile.Trees
import FlagEngine.Proofs.Datafile.Records
import FlagEngine.Proofs.Datafile.Restored
import FlagEngine.Proofs.Preservation
import FlagEngine.Proofs.Exclusion
import FlagEngine.Proofs.Extension
import FlagEngine.Proofs.Growth
import FlagEngine.Proofs.Histories
import FlagEngine.Proofs.Bandit.Resets
import FlagEngine.Proofs.Scans
import FlagEngine.Proofs.Walks
import FlagEngine.Proofs.Precedence
import FlagEngine.Proofs.BucketingIds
import FlagEngine.Proofs.Selection
import FlagEngine.Proofs.Conditions.Kleene
import FlagEngine.Proofs.Conditions.Expansion
import FlagEngine.Proofs.Conditions.Learning
import FlagEngine.Proofs.Bandit.Lifetimes
import FlagEngine.Proofs.Conditions.Explanations
import FlagEngine.Proofs.Bandit.Ranking
import FlagEngine.Proofs.Bandit.Memoization
import FlagEngine.Proofs.Bandit.Recency
import FlagEngine.Proofs.ForcedVariations
import FlagEngine.Proofs.Values
import FlagEngine.Proofs.Versions.Grammar
import FlagEngine.Proofs.Versions.Comparison
import FlagEngine.Proofs.Versions.Reflexivity
import FlagEngine.Proofs.Conditions.Operators
import FlagEngine.Proofs.Rounding
import FlagEngine.Proofs.Decimals
import FlagEngine.Proofs.Versions.Suffixes
import FlagEngine.Proofs.Conditions.Integers
import FlagEngine.Proofs.Proportions
import FlagEngine.Proofs.HashBlocks
import FlagEngine.Proofs.Conditions.Reencoding
import FlagEngine.Proofs.Fingerprints
import FlagEngine.Proofs.Prediction.Retries
import FlagEngine.Proofs.Replacement
import FlagEngine.Proofs.Url.Encoding
import FlagEngine.Proofs.Url.Paths
import FlagEngine.Proofs.Prediction.Endpoints
import FlagEngine.Proofs.Overlays
