import Askit.Game.LiveFeed
import Askit.Game.InOrder
import Askit.Game.AnsweredOnce
import Askit.Game.HostLoop
import Askit.Game.Scores
import Askit.Game.InTime
import Askit.Auth.Admission
import Askit.Auth.Revocation
import Askit.Auth.Rotation
import Askit.Auth.Lockout
import Askit.Game.Roster
import Askit.Game.Presence
import Askit.Game.Delivery
import Askit.Auth.Bumps
import Askit.Game.Bookkeeping
import Askit.Auth.Denylist
import Askit.Game.FastPath
import Askit.Quizzes.Edits
import Askit.Game.Submissions
import Askit.Game.Rebuilt
import Askit.Game.Refusals
import Askit.Game.Distribution
import Askit.Quizzes.SharedTags
import Askit.Quizzes.Documents
import Askit.Quizzes.Stats
import Askit.Game.Paging
import Askit.Game.FullMarks
import Askit.Game.Cleanup
import Askit.Game.Placement
import Askit.Quizzes.Tags
import Askit.Auth.Usernames
import Askit.Game.Leaderboard
import Askit.Auth.CookieHeader
import Askit.Rooms.Codes
import Askit.Relational.Rows
import Askit.Tables.Transactions
import Askit.Relational.Statements
import Askit.Relational.Services
import Askit.Relational.Effects
import Askit.Relational.Updates
import Askit.Relational.Agreement
import Askit.Relational.Deletion
import Askit.Relational.Creation
import Askit.Relational.Site
import Askit.Relational.Reachability
import Askit.Relational.Nested
import Askit.Game.Scoring
import Askit.Game.Fairness
import Askit.Game.Addressing
import Askit.Game.Disclosure
import Askit.Game.Recipients
import Askit.Game.Duties
import Askit.Game.Entitlement
import Askit.Relational.Widths
import Askit.Relational.Exports
import Askit.Relational.Ownership
import Askit.Relational.Router
import Askit.Tables.TwoRuns
import Askit.Relational.Privacy
import Askit.Game.Stranded
import Askit.Game.Tickets
import Askit.Game.Isolation
import Askit.Game.Registries
