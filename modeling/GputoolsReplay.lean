import GputoolsReplay.Substrate.Lossless
import GputoolsReplay.Substrate.EnvelopeGrammar
import GputoolsReplay.Substrate.FetchResults
import GputoolsReplay.Substrate.Blame
import GputoolsReplay.Substrate.SessionOnce
import GputoolsReplay.Substrate.HarvesterFramework
import GputoolsReplay.Substrate.ProbeReply
import GputoolsReplay.Substrate.Bootstrap
import GputoolsReplay.Substrate.ProbeRefines
import GputoolsReplay.Substrate.ProbeBatch
import GputoolsReplay.Substrate.RoundTrip
import GputoolsReplay.Substrate.Environment
import GputoolsReplay.Substrate.ProbeOpen
import GputoolsReplay.Hl.Attribution
import GputoolsReplay.Hl.FetchOrder
import GputoolsReplay.Hl.PixelViews
import GputoolsReplay.Hl.PixelErrors
import GputoolsReplay.Hl.Blocks
import GputoolsReplay.Hl.PackedBlocks
import GputoolsReplay.Hl.Capture
import GputoolsReplay.Hl.Wireframes
import GputoolsReplay.Hl.Snapshot
import GputoolsReplay.Hl.ArchiveGraph
import GputoolsReplay.Hl.ArchiveTree
import GputoolsReplay.Hl.Stages
import GputoolsReplay.Hl.DecodersAgree
import GputoolsReplay.Hl.Accel
import GputoolsReplay.Hl.Timeouts
import GputoolsReplay.Hl.Accessors
import GputoolsReplay.Hl.Service
import GputoolsReplay.Hl.ArchiveWeight
import GputoolsReplay.Hl.Manifest
import GputoolsReplay.Hl.Texbmp
import GputoolsReplay.Hl.Pixelcheck
import GputoolsReplay.Hl.Datadiff
