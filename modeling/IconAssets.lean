import IconAssets.Icon.Identifier
import IconAssets.Source.Reference
import IconAssets.Image.Outline
import IconAssets.Image.Location
import IconAssets.Platform.Resolve
import IconAssets.Catalog.Contents
import IconAssets.Manifest
import IconAssets.Config
import IconAssets.Compile.Request
import IconAssets.Disk.Change
import IconAssets.Disk.View
import IconAssets.Source.Tree
import IconAssets.Catalog.Generate
import IconAssets.Pipeline
import IconAssets.Compile.Launch
import IconAssets.Lookup
import IconAssets.Main
import IconAssets.Decimal.Places
import IconAssets.Proofs.Icon.CanonicalName
import IconAssets.Proofs.Lookup
import IconAssets.Proofs.Pipeline
import IconAssets.Proofs.Image.Template
import IconAssets.Proofs.Catalog.Failing
import IconAssets.Proofs.Catalog.Exchange
import IconAssets.Proofs.Path.Length
import IconAssets.Proofs.Catalog.Passing
import IconAssets.Proofs.Catalog.Regeneration
import IconAssets.Proofs.Catalog.Residue
import IconAssets.Proofs.Catalog.Confinement
import IconAssets.Proofs.Source.Calls
import IconAssets.Proofs.Source.Tokens
import IconAssets.Proofs.Store
import IconAssets.Proofs.Source.Modes
import IconAssets.Proofs.Source.Spelling
import IconAssets.Proofs.Source.Tree
import IconAssets.Proofs.Manifest
import IconAssets.Proofs.Pipeline.Accounting
import IconAssets.Proofs.Pipeline.Compiling
import IconAssets.Proofs.Catalog.Hindrance
import IconAssets.Proofs.Source.Remains
import IconAssets.Proofs.Source.Lines
import IconAssets.Proofs.Icon.Reading
import IconAssets.Proofs.Config
import IconAssets.Proofs.Image.Outline
import IconAssets.Proofs.Image.Sharing
import IconAssets.Proofs.Platform.Sdk
