import ScopedLog.Config.Document
import ScopedLog.Key.Kinds
import ScopedLog.Proofs.Layers
import ScopedLog.Proofs.Identity
import ScopedLog.Proofs.Records
import ScopedLog.Proofs.Session.Offers
import ScopedLog.Proofs.Replacement
import ScopedLog.Proofs.Context.Kinds
import ScopedLog.Proofs.Context.Binding
import ScopedLog.Proofs.Session.Hidden
import ScopedLog.Proofs.SetUp
import ScopedLog.Proofs.Pairs.Lenient
import ScopedLog.Proofs.Spoiling
import ScopedLog.Proofs.Handover
import ScopedLog.Proofs.Pairs.Grammar
import ScopedLog.Proofs.Pairs.Joined
import ScopedLog.Proofs.Text.Utf8
import ScopedLog.Proofs.Context.Shadowed
import ScopedLog.Proofs.Visiting
import ScopedLog.Proofs.Routes
import ScopedLog.Proofs.Unserializable
import ScopedLog.Proofs.Seeding
import ScopedLog.Proofs.Document
import ScopedLog.Proofs.Text.Compact
import ScopedLog.Proofs.Choosing
import ScopedLog.Proofs.Ending
import ScopedLog.Proofs.Naming
import ScopedLog.Proofs.Context.Readers
import ScopedLog.Proofs.Warnings
